import ClimateNode.App.RegisterView
import ClimateNode.App.RequestDelivery
import ClimateNode.App.RequestLog
import ClimateNode.App.UartSharing
import ClimateNode.Machine.Observation
import ClimateNode.Platform.RingStream

/-!
# The node on the bus

The firmware between the receive line and the transmit line: the DMA ring and its interrupt, the
server they share with `modbus_task`, the three tasks of the main loop, the logger, and the transmit
channel with its interrupt. The tasks run one after the other; a frame or a completed transfer may
come between any two steps of `modbus_task`.

A frame is paced when the line is quiet and the frame lies in the ring in one piece, not across its
end. So no byte comes while a request waits, and a request may be taken by value. `BusInv` holds
along paced steps, and each of them is, for the register device that the node shows, the events
`busEvents` (`busStep_facts`).
-/

set_option autoImplicit false

namespace ClimateNode.Application

open ClimateNode.Core ClimateNode.Service ClimateNode.Machine ClimateNode.Platforms

/-- `modbus_task` with the node, the UART, and the logger with its level. -/
structure Bus (F : Type) where
  task : Delivery F
  rx : UartRx
  tx : UartTx
  log : Logger
  level : LogLevel

/-- A frame on the line with the IDLE interrupt behind it, a control task, a step of `modbus_task`,
a logger task, the interrupt of a completed transfer. -/
inductive BusOp where
  | frame (bytes : List UInt8)
  | control (i : McuInput)
  | modbus (nowMs : UInt32)
  | logger
  | txComplete

section Steps

variable {F : Type} (lut : DewpointLut) (d : FlashDriver F)

/-- The callback of an interrupt. -/
def deliverEvent (s : Delivery F) (event : UartEvent) : Delivery F :=
  { s with
    node := deliverUart s.node [event]
    accepted := s.accepted ++ (acceptedRequest s.node event).toList }

/-- The DMA stores a frame and the IDLE interrupt passes it on. Before `uart1_async_init` the
receiver is off. -/
def busFrame (s : Bus F) (bytes : List UInt8) : Bus F :=
  match s.task.node.srv with
  | none => s
  | some _ =>
      let r := usart1IrqHandler (bytes.foldl dmaStore s.rx)
      { s with rx := r.2, task := r.1.foldl deliverEvent s.task }

/-- The first call of `modbus_task` starts the UART (`uart1_async_init`). -/
def busStartUart (s : Bus F) : Bus F :=
  match s.task.node.srv with
  | none => { s with rx := uart1RxInit s.rx, tx := { s.tx with enabled := false } }
  | some _ => s

/-- A step of `modbus_task`, with what the handler sends and logs. -/
def busModbus (nowMs : UInt32) (s : Bus F) : Checked (Bus F) :=
  match s.task.phase with
  | .handle => do
      let req := s.task.server.request
      let log ← handleModbusRequestLog loggerWriteChar s.level d nowMs s.task.node req s.log
      return { s with
        task := modbusTaskStep d nowMs s.task
        tx := sendResponse s.tx (handleModbusRequest d s.task.node nowMs req).2
        log := log }
  | .idle => .ok { busStartUart s with task := modbusTaskStep d nowMs s.task }
  | _ => .ok { s with task := modbusTaskStep d nowMs s.task }

/-- One operation. In the middle of `modbus_task` no other task runs. -/
def busStep (s : Bus F) : BusOp → Checked (Bus F)
  | .frame bytes => .ok (busFrame s bytes)
  | .control i =>
      if s.task.phase = .idle then do
        let n ← controlTask lut i s.task.node
        return { s with task := { s.task with node := n } }
      else .ok s
  | .modbus nowMs => busModbus d nowMs s
  | .logger =>
      if s.task.phase = .idle then
        let r := loggerTask platformWrite s.log s.tx
        .ok { s with log := r.1, tx := r.2 }
      else .ok s
  | .txComplete =>
      let r := dma1Channel4IrqHandler s.tx
      .ok { s with tx := r.2, task := r.1.foldl deliverEvent s.task }

/-- After the boot of `n`, with `logger_init`; the ring holds what the memory held. -/
def busStart (n : Node F) (rx : UartRx) (log : Logger) : Bus F :=
  ⟨deliveryStart n, rx, ⟨false, []⟩, loggerInit log, .info⟩

/-- The line is quiet: `modbus_task` is not running, no request waits for it, and no response is on
its way. -/
def LineQuiet (s : Bus F) : Prop :=
  s.task.phase = .idle ∧ s.task.server.event ≠ .request ∧ s.tx.enabled = false

/-- The frame is noticed and lies in the ring in one piece. -/
def InOnePiece (s : Bus F) (bytes : List UInt8) : Prop :=
  0 < bytes.length ∧ bytes.length ≤ 255 ∧ s.rx.dmaPos + bytes.length ≤ uartRxDmaBufSize

/-- A frame comes while the line is quiet, and in one piece. -/
def Paced (s : Bus F) : BusOp → Prop
  | .frame bytes => LineQuiet s ∧ (s.task.node.srv ≠ none → InOnePiece s bytes)
  | _ => True

/-- The request that a frame makes, when it is one for the node with the address 1. -/
def frameRequest (bytes : List UInt8) : Option ModbusRequest :=
  let r := modbusParseRequest bytes 1 ⟨0, 0, []⟩
  if r.1 = .ok then some r.2 else none

/-- The requests on the line: those of the frames that come after the receiver has been started. -/
def frameRequests (s : Bus F) (op : BusOp) (_ : Bus F) : List ModbusRequest :=
  match op, s.task.node.srv with
  | .frame bytes, some _ => (frameRequest bytes).toList
  | _, _ => []

/-- What a step is for the device: the handler answers the request, and the status values are new
after it and after a control task. -/
def busEvents (s : Bus F) (op : BusOp) (s' : Bus F) : List DeviceEvent :=
  match op with
  | .control _ => [.report (telemetryOf s'.task.node)]
  | .modbus nowMs =>
      if s.task.phase = .handle then
        [.request nowMs s.task.server.request, .report (telemetryOf s'.task.node)]
      else []
  | .frame _ | .logger | .txComplete => []

/-- The invariant of the paced runs. -/
structure BusInv (s : Bus F) : Prop where
  ledger : LedgerInv s.task
  ctrl : CtrlInv s.task.node.sys.app.ctrl
  addr : ∀ srv, s.task.node.srv = some srv → srv.slaveAddr = 1
  ring : s.task.node.srv ≠ none → Drained s.rx
  /-- The channel is free for the next response. -/
  free : nextHandled s.task ≠ [] → s.tx.enabled = false
  /-- The logger has nothing to send. -/
  silent : s.log.count = 0
  level : s.level = .info

/-- The state and the device it shows. -/
def Shows (s : Bus F) (dev : RegisterDevice) : Prop := BusInv s ∧ dev = registerDevice s.task.node

theorem busInv_start {n : Node F} (h : CtrlInv n.sys.app.ctrl) (rx : UartRx) (log : Logger) :
    BusInv (busStart n rx log) where
  ledger := ledgerInv_start n
  ctrl := h
  addr := by rintro srv ⟨⟩
  ring := fun hne => absurd rfl hne
  free := fun hne => absurd rfl hne
  silent := rfl
  level := rfl

end Steps

/-! ## One step -/

section Preserved

variable {F : Type} {s : Bus F}

/-- A step keeps the invariant, the device takes the events of the step, and what the channel takes
is the device's answers; the requests handled and accepted are kept in order. -/
structure BusStepFacts (s : Bus F) (op : BusOp) (s' : Bus F) : Prop where
  inv : BusInv s'
  device : registerDevice s'.task.node =
    after deviceStep (registerDevice s.task.node) (busEvents s op s')
  taken : s'.tx.taken = s.tx.taken ++
    answers deviceStep (registerDevice s.task.node) (busEvents s op s')
  handled : s'.task.handled = s.task.handled ++ (busEvents s op s').filterMap DeviceEvent.request?
  accepted : s'.task.accepted = s.task.accepted ++ frameRequests s op s'

/-- An empty ring gives the logger task nothing to do. -/
theorem loggerTask_of_empty {l : Logger} (h : l.count = 0) (tx : UartTx) :
    loggerTask platformWrite l tx = (l, tx) := by
  simp only [loggerTask, loggerFillChunk, loggerChunkSize, loggerPopChar_empty h]
  rfl

/-- The parser's verdict does not depend on the request slot. -/
theorem acceptedRequest_eq {n : Node F} {srv : ModbusServer} (hsrv : n.srv = some srv)
    (haddr : srv.slaveAddr = 1) (bytes : List UInt8) :
    acceptedRequest n (.rxChunk bytes) = frameRequest bytes := by
  have hok : (modbusParseRequest bytes 1 srv.request).1 = .ok ↔
      (modbusParseRequest bytes 1 ⟨0, 0, []⟩).1 = .ok := by
    rw [modbusParseRequest_eq_ok_iff, modbusParseRequest_eq_ok_iff]
  simp only [acceptedRequest, frameRequest, hsrv, Option.bind_some, haddr]
  by_cases h : (modbusParseRequest bytes 1 ⟨0, 0, []⟩).1 = .ok
  · rw [if_pos (hok.2 h), if_pos h, modbusParseRequest_ok (hok.2 h), modbusParseRequest_ok h]
  · rw [if_neg (mt hok.1 h), if_neg h]

/-- A frame in one piece is one chunk. -/
theorem busFrame_of_one_piece {srv : ModbusServer} (hsrv : s.task.node.srv = some srv)
    (hring : Drained s.rx) {bytes : List UInt8} (hpiece : InOnePiece s bytes) :
    busFrame s bytes =
        { s with
          rx := (usart1IrqHandler (bytes.foldl dmaStore s.rx)).2
          task := deliverEvent s.task (.rxChunk bytes) } := by
  obtain ⟨hpos, hlen, hfits⟩ := hpiece
  have hevents : (usart1IrqHandler (bytes.foldl dmaStore s.rx)).1 = [.rxChunk bytes] := by
    have h := frameEvents_of_le s.rx.rxDmaBuffer hring.running.dmaPos_lt hpos hlen hfits
    rw [frameEvents, ← hring.eq_ringAt] at h
    exact h
  simp only [busFrame, hsrv, hevents, List.foldl_cons, List.foldl_nil]

/-- A frame in a quiet moment changes nothing for the device, and the request it makes waits. -/
theorem busFrame_facts (h : BusInv s) {bytes : List UInt8} (hquiet : LineQuiet s)
    (hpiece : s.task.node.srv ≠ none → InOnePiece s bytes) :
    BusStepFacts s (.frame bytes) (busFrame s bytes) := by
  cases hsrv : s.task.node.srv with
  | none =>
      have hsame : busFrame s bytes = s := by simp only [busFrame, hsrv]
      have hnothing : frameRequests s (.frame bytes) s = [] := by simp only [frameRequests, hsrv]
      rw [hsame]
      refine ⟨h, rfl, (List.append_nil _).symm, (List.append_nil _).symm, ?_⟩
      rw [hnothing, List.append_nil]
  | some srv =>
      have hne : s.task.node.srv ≠ none := by
        rw [hsrv]
        exact Option.some_ne_none srv
      have hring := h.ring hne
      obtain ⟨hidle, hevent, htx⟩ := hquiet
      -- with no request waiting the delivery is harmless
      have hsafe : SafeDelivery s.task (.deliver (.rxChunk bytes)) := by
        simp only [SafeDelivery, hidle]
        exact fun hreq => absurd hreq hevent
      have hto : DeliversTo s.task (deliverEvent s.task (.rxChunk bytes)) srv (.rxChunk bytes) :=
        ⟨hsrv, rfl, rfl, rfl, by simp [deliverEvent, deliverUart, hsrv]⟩
      have hdrained : Drained (usart1IrqHandler (bytes.foldl dmaStore s.rx)).2 :=
        drained_interrupt (foldl_dmaStore_spec hring.running bytes).1
      have hrequests : ∀ s', frameRequests s (.frame bytes) s' =
          (acceptedRequest s.task.node (.rxChunk bytes)).toList := by
        intro s'
        rw [acceptedRequest_eq hsrv (h.addr srv hsrv)]
        simp only [frameRequests, hsrv]
      rw [busFrame_of_one_piece hsrv hring (hpiece hne)]
      refine ⟨⟨deliver_ledgerInv h.ledger hto hsafe, h.ctrl, ?_, fun _ => hdrained, fun _ => htx,
        h.silent, h.level⟩, rfl, (List.append_nil _).symm, (List.append_nil _).symm, ?_⟩
      · intro srv' hsrv'
        obtain rfl := Option.some.inj (hto.delivered.symm.trans hsrv')
        show (modbusRxChunk srv bytes).slaveAddr = 1
        unfold modbusRxChunk
        dsimp only
        split
        · exact h.addr srv hsrv
        · exact h.addr srv hsrv
      · rw [hrequests]
        exact hto.accepted

/-! ## The tasks -/

/-- Another node with the same server keeps the account of the requests. -/
theorem ledgerInv_of_srv {t : Delivery F} {n : Node F} (h : LedgerInv t)
    (hsrv : n.srv = t.node.srv) :
    LedgerInv { t with node := n } ∧ nextHandled { t with node := n } = nextHandled t := by
  have hserver : ({ t with node := n } : Delivery F).server = t.server := by
    show n.srv.getD _ = t.node.srv.getD _
    rw [hsrv]
  have hnext : nextHandled { t with node := n } = nextHandled t := by
    simp only [nextHandled, hserver]
  refine ⟨⟨?_, fun hphase => ?_, fun hphase => ?_, h.shaped⟩, hnext⟩
  · rw [hnext]
    exact h.ledger
  · rw [hsrv]
    exact h.started hphase
  · rw [hserver]
    exact h.tested hphase

theorem startedMs_diagRecord (d : Diagnostics) (nowMs : UInt32) (state : CtrlState) (err : Err)
    (relayOn processed : Bool) :
    (diagRecord d nowMs state err relayOn processed).startedMs = d.startedMs := by
  unfold diagRecord
  dsimp only
  split_ifs <;> rfl

theorem startedMs_controlTask {lut : DewpointLut} {i : McuInput} {n n' : Node F}
    (h : controlTask lut i n = .ok n') : n'.diag.startedMs = n.diag.startedMs := by
  obtain ⟨r, -, h⟩ := checked_bind_eq_ok h
  split at h
  · cases h
    exact startedMs_diagRecord _ _ _ _ _ _
  · cases h
    rfl

/-- A control task changes nothing of the device but the status values. -/
theorem registerDevice_controlTask {lut : DewpointLut} {i : McuInput} {n n' : Node F}
    (hcfg : n'.sys.app.cfg = n.sys.app.cfg) (h : controlTask lut i n = .ok n') :
    registerDevice n' = { registerDevice n with telemetry := telemetryOf n' } := by
  unfold registerDevice
  rw [hcfg, startedMs_controlTask h]

theorem busControl_facts (lut : DewpointLut) (d : FlashDriver F) (h : BusInv s) (i : McuInput) :
    ∃ s', busStep lut d s (.control i) = .ok s' ∧ BusStepFacts s (.control i) s' := by
  by_cases hidle : s.task.phase = .idle
  · obtain ⟨n, hn, hfacts⟩ := controlTask_facts lut i h.ctrl
    obtain ⟨hledger, hnext⟩ := ledgerInv_of_srv h.ledger hfacts.srv
    refine ⟨{ s with task := { s.task with node := n } }, ?_,
      ⟨hledger, hfacts.inv, ?_, ?_, ?_, h.silent, h.level⟩, ?_, (List.append_nil _).symm,
      (List.append_nil _).symm, (List.append_nil _).symm⟩
    · simp only [busStep, if_pos hidle, hn, checked_ok_bind]
      rfl
    · intro srv hsrv
      exact h.addr srv (hfacts.srv.symm.trans hsrv)
    · intro hne
      exact h.ring (by rw [← hfacts.srv]; exact hne)
    · intro hne
      rw [hnext] at hne
      exact h.free hne
    · exact registerDevice_controlTask hfacts.cfg hn
  · exact ⟨s, by simp only [busStep, if_neg hidle], h, rfl, (List.append_nil _).symm,
      (List.append_nil _).symm, (List.append_nil _).symm⟩

/-- With nothing to send the logger task does nothing. -/
theorem busLogger_facts (lut : DewpointLut) (d : FlashDriver F) (h : BusInv s) :
    ∃ s', busStep lut d s .logger = .ok s' ∧ BusStepFacts s .logger s' := by
  refine ⟨s, ?_, h, rfl, (List.append_nil _).symm, (List.append_nil _).symm,
    (List.append_nil _).symm⟩
  simp only [busStep, loggerTask_of_empty h.silent]
  split <;> rfl

/-- A completed transfer frees the channel, and the callback ignores it. -/
theorem busTxComplete_facts (lut : DewpointLut) (d : FlashDriver F) (h : BusInv s) :
    ∃ s', busStep lut d s .txComplete = .ok s' ∧ BusStepFacts s .txComplete s' := by
  have hsame : deliverEvent s.task .txComplete = s.task := by
    obtain ⟨⟨⟨sys, diag, regs, srv⟩, phase, accepted, handled⟩, rx, tx, log, level⟩ := s
    cases srv with
    | none => simp [deliverEvent, deliverUart, acceptedRequest]
    | some srv => simp [deliverEvent, deliverUart, acceptedRequest, modbusUartEventCallback]
  refine ⟨{ s with tx := { s.tx with enabled := false } }, ?_,
    ⟨h.ledger, h.ctrl, h.addr, h.ring, fun _ => rfl, h.silent, h.level⟩, rfl,
    (List.append_nil _).symm, (List.append_nil _).symm, (List.append_nil _).symm⟩
  show Except.ok { s with tx := { s.tx with enabled := false }, task := deliverEvent s.task _ } = _
  rw [hsame]

/-! ## The steps of `modbus_task` -/

/-- Outside the handler a step leaves the application alone and answers nothing. -/
theorem modbusTaskStep_quiet (d : FlashDriver F) (nowMs : UInt32) {t : Delivery F}
    (h : t.phase ≠ .handle) :
    registerDevice (modbusTaskStep d nowMs t).node = registerDevice t.node ∧
      (modbusTaskStep d nowMs t).node.sys.app.ctrl = t.node.sys.app.ctrl ∧
      (modbusTaskStep d nowMs t).handled = t.handled ∧
      (modbusTaskStep d nowMs t).accepted = t.accepted := by
  obtain ⟨n, phase, accepted, handled⟩ := t
  cases phase with
  | idle => exact ⟨rfl, rfl, rfl, rfl⟩
  | testOther =>
      simp only [modbusTaskStep]
      split
      · exact ⟨rfl, rfl, rfl, rfl⟩
      · exact ⟨rfl, rfl, rfl, rfl⟩
  | handle => exact absurd rfl h
  | clear => exact ⟨rfl, rfl, rfl, rfl⟩

/-- The server keeps its address; the first call gives it the address 1. -/
theorem slaveAddr_modbusTaskStep (d : FlashDriver F) (nowMs : UInt32) {t : Delivery F}
    (h : ∀ srv, t.node.srv = some srv → srv.slaveAddr = 1) :
    ∀ srv, (modbusTaskStep d nowMs t).node.srv = some srv → srv.slaveAddr = 1 := by
  have hserver : t.server.slaveAddr = 1 := by
    show (t.node.srv.getD (modbusServerInit 1 5)).slaveAddr = 1
    cases hsrv : t.node.srv with
    | none => rfl
    | some srv => exact h srv hsrv
  obtain ⟨n, phase, accepted, handled⟩ := t
  intro srv hsrv
  cases phase with
  | idle =>
      cases hsrv
      exact hserver
  | testOther =>
      simp only [modbusTaskStep] at hsrv
      split at hsrv
      · exact h srv hsrv
      · exact h srv hsrv
  | handle => exact h srv ((srv_handleModbusRequest d n nowMs _).symm.trans hsrv)
  | clear =>
      cases hsrv
      exact hserver

/-- A step outside the handler keeps a waiting request waiting. -/
theorem nextHandled_modbusTaskStep (d : FlashDriver F) (nowMs : UInt32) {t : Delivery F}
    (h : t.phase ≠ .handle) : nextHandled (modbusTaskStep d nowMs t) = nextHandled t := by
  have hledger := ledger_modbusTaskStep d nowMs t
  rw [(modbusTaskStep_quiet d nowMs h).2.2.1] at hledger
  exact List.append_cancel_left hledger

theorem ctrlInv_handleModbusRequest (d : FlashDriver F) {n : Node F}
    (h : CtrlInv n.sys.app.ctrl) (nowMs : UInt32) (req : ModbusRequest) :
    CtrlInv (handleModbusRequest d n nowMs req).1.sys.app.ctrl := by
  rw [sys_handleModbusRequest]
  cases requestedConfig n.sys.app.cfg req with
  | none => exact h
  | some cfg =>
      by_cases happ : AppliesConfig d n.sys.flash (storageFinalize cfg)
      · simp only [appUpdateConfig_of_applies happ]
        exact ctrlInv_init _
      · obtain ⟨flash, cfg', heq⟩ := appUpdateConfig_of_not_applies happ
        simp only [heq]
        exact h

/-- A flash driver that reports every write as done. -/
def TakesWrites (d : FlashDriver F) : Prop :=
  ∀ flash slotIndex cfg, (d.write flash slotIndex cfg).1 = .ok

/-- At the level of `logger_init` a request logs nothing, when no update fails. -/
theorem requestLogChars_eq_nil {d : FlashDriver F} (hwrite : TakesWrites d) (nowMs : UInt32)
    (n : Node F) (req : ModbusRequest) : requestLogChars .info d nowMs n req = [] := by
  have hupdate : requestedUpdate d n req = .ok := by
    unfold requestedUpdate
    cases requestedConfig n.sys.app.cfg req with
    | none => rfl
    | some cfg =>
        exact appUpdateConfig_eq_ok_iff.2 ⟨storageValidate_storageFinalize cfg, hwrite _ _ _⟩
  have hdebug : ¬ loggerLevelEnabled .info .debug = true := by decide
  rw [requestLogChars, updateErrorChars, responseChars, if_neg fun h => h.1 hupdate,
    if_neg fun h => hdebug h.2]
  rfl

/-- An idle channel takes the response. -/
theorem sendResponse_idle {tx : UartTx} (h : tx.enabled = false) {resp : List UInt8}
    (hresp : resp ≠ []) : sendResponse tx resp = ⟨true, tx.taken ++ [resp]⟩ := by
  rw [sendResponse, if_pos (List.length_pos_of_ne_nil hresp), uart1TxDmaAsync_idle h]

/-- The steps outside the handler. -/
theorem modbusStepFacts_quiet {d : FlashDriver F} {nowMs : UInt32} {s' : Bus F} (h : BusInv s)
    (hphase : s.task.phase ≠ .handle) (htask : s'.task = modbusTaskStep d nowMs s.task)
    (hring : Drained s'.rx) (htaken : s'.tx.taken = s.tx.taken)
    (hfree : nextHandled s.task ≠ [] → s'.tx.enabled = false) (hlog : s'.log = s.log)
    (hlevel : s'.level = s.level) : BusStepFacts s (.modbus nowMs) s' := by
  obtain ⟨hdevice, hctrl, hhandled, haccepted⟩ := modbusTaskStep_quiet d nowMs hphase
  have hevents : busEvents s (.modbus nowMs) s' = [] := if_neg hphase
  have hnext := nextHandled_modbusTaskStep d nowMs hphase
  refine ⟨⟨?_, ?_, ?_, fun _ => hring, ?_, ?_, ?_⟩, ?_, ?_, ?_, ?_⟩
  · rw [htask]
    exact modbusTaskStep_ledgerInv d nowMs h.ledger
  · rw [htask, hctrl]
    exact h.ctrl
  · rw [htask]
    exact slaveAddr_modbusTaskStep d nowMs h.addr
  · rw [htask, hnext]
    exact hfree
  · rw [hlog]
    exact h.silent
  · rw [hlevel]
    exact h.level
  · rw [htask, hdevice, hevents, after_nil]
  · rw [htaken, hevents, answers_nil, List.append_nil]
  · rw [htask, hhandled, hevents, List.filterMap_nil, List.append_nil]
  · rw [htask, haccepted]
    exact (List.append_nil _).symm

/-- The request that waits for the handler has the shape that the parser lets through. -/
theorem wellShaped_of_handle (h : BusInv s) (hphase : s.task.phase = .handle) :
    WellShaped s.task.server.request := by
  have hnext : nextHandled s.task = [s.task.server.request] := by
    simp only [nextHandled, hphase]
  refine h.ledger.shaped _ ?_
  rw [← h.ledger.ledger, hnext]
  exact List.mem_append_right _ (List.mem_singleton_self _)

/-- The handler answers the waiting request as the device does. -/
theorem busModbus_handle {d : FlashDriver F} (hwrite : TakesWrites d) (h : BusInv s)
    (nowMs : UInt32) (hphase : s.task.phase = .handle) :
    ∃ s', busModbus d nowMs s = .ok s' ∧ BusStepFacts s (.modbus nowMs) s' := by
  have hnext : nextHandled s.task = [s.task.server.request] := by
    simp only [nextHandled, hphase]
  have hstep : modbusTaskStep d nowMs s.task =
      { s.task with
        node := (handleModbusRequest d s.task.node nowMs s.task.server.request).1
        handled := s.task.handled ++ [s.task.server.request]
        phase := .clear } := by
    simp only [modbusTaskStep, hphase]
  obtain ⟨rest, hanswer⟩ := handleModbusRequest_answers d s.task.node nowMs s.task.server.request
  have hsend := sendResponse_idle (h.free (by rw [hnext]; exact List.cons_ne_nil _ _))
    (by rw [hanswer]; exact List.cons_ne_nil _ _ :
      (handleModbusRequest d s.task.node nowMs s.task.server.request).2 ≠ [])
  obtain ⟨hanswers, hafter⟩ := handleModbusRequest_serves d s.task.node nowMs
    (wellShaped_of_handle h hphase)
  have hlog : handleModbusRequestLog loggerWriteChar s.level d nowMs s.task.node
      s.task.server.request s.log = .ok s.log := by
    rw [handleModbusRequestLog_eq, h.level, requestLogChars_eq_nil hwrite]
    rfl
  refine ⟨{ s with
    task := modbusTaskStep d nowMs s.task
    tx := sendResponse s.tx
      (handleModbusRequest d s.task.node nowMs s.task.server.request).2 }, ?_,
    ⟨⟨?_, ?_, ?_, ?_, ?_, h.silent, h.level⟩, ?_, ?_, ?_, ?_⟩⟩
  · simp only [busModbus, hphase, hlog, checked_ok_bind]
    rfl
  · exact modbusTaskStep_ledgerInv d nowMs h.ledger
  · show CtrlInv (modbusTaskStep d nowMs s.task).node.sys.app.ctrl
    rw [hstep]
    exact ctrlInv_handleModbusRequest d h.ctrl nowMs _
  · exact slaveAddr_modbusTaskStep d nowMs h.addr
  · intro hne
    refine h.ring fun hnone => hne ?_
    show (modbusTaskStep d nowMs s.task).node.srv = none
    rw [hstep]
    exact (srv_handleModbusRequest d _ nowMs _).trans hnone
  · intro hne
    refine absurd ?_ hne
    show nextHandled (modbusTaskStep d nowMs s.task) = []
    rw [hstep]
    rfl
  · simp only [busEvents, if_pos hphase, hstep]
    exact hafter.symm
  · simp only [busEvents, if_pos hphase, hstep]
    rw [hsend, hanswers]
  · simp only [busEvents, if_pos hphase, hstep]
    rfl
  · show (modbusTaskStep d nowMs s.task).accepted = _
    rw [hstep]
    exact (List.append_nil _).symm

/-- Every step of `modbus_task` returns and keeps the invariant. -/
theorem busModbus_facts {d : FlashDriver F} (hwrite : TakesWrites d) (h : BusInv s)
    (nowMs : UInt32) :
    ∃ s', busModbus d nowMs s = .ok s' ∧ BusStepFacts s (.modbus nowMs) s' := by
  cases hphase : s.task.phase with
  | handle => exact busModbus_handle hwrite h nowMs hphase
  | idle =>
      have hne : s.task.phase ≠ .handle := by
        rw [hphase]
        rintro ⟨⟩
      refine ⟨{ busStartUart s with task := modbusTaskStep d nowMs s.task }, ?_, ?_⟩
      · simp only [busModbus, hphase]
      · unfold busStartUart
        cases hsrv : s.task.node.srv with
        | none =>
            exact modbusStepFacts_quiet h hne rfl (drained_uart1RxInit s.rx) rfl (fun _ => rfl)
              rfl rfl
        | some srv =>
            have hring := h.ring (by rw [hsrv]; exact Option.some_ne_none srv)
            exact modbusStepFacts_quiet h hne rfl hring rfl h.free rfl rfl
  | _ =>
      have hne : s.task.phase ≠ .handle := by
        rw [hphase]
        rintro ⟨⟩
      obtain ⟨srv, hsrv⟩ := h.ledger.started (by rw [hphase]; rintro ⟨⟩)
      have hring := h.ring (by rw [hsrv]; exact Option.some_ne_none srv)
      refine ⟨{ s with task := modbusTaskStep d nowMs s.task }, ?_, ?_⟩
      · simp only [busModbus, hphase]
      · exact modbusStepFacts_quiet h hne rfl hring rfl h.free rfl rfl

/-- Every step of a paced run returns, and the device follows it. -/
theorem busStep_facts (lut : DewpointLut) {d : FlashDriver F} (hwrite : TakesWrites d)
    (h : BusInv s) (op : BusOp) (hpaced : Paced s op) :
    ∃ s', busStep lut d s op = .ok s' ∧ BusStepFacts s op s' := by
  cases op with
  | frame bytes => exact ⟨busFrame s bytes, rfl, busFrame_facts h hpaced.1 hpaced.2⟩
  | control i => exact busControl_facts lut d h i
  | modbus nowMs => exact busModbus_facts hwrite h nowMs
  | logger => exact busLogger_facts lut d h
  | txComplete => exact busTxComplete_facts lut d h

end Preserved

end ClimateNode.Application
