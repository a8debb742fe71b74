import ClimateNode.App.RequestDelivery
import ClimateNode.Platform.RingStream
import ClimateNode.Service.RequestSlot

/-!
# Requests in the receive ring

The firmware never copies a frame: the request that waits for `modbus_task` is a pointer into the
ring that the receive DMA keeps writing. So three parties meet here: the DMA stores bytes, the
interrupts deliver ranges of the ring to the server, and the task tests, handles and clears, each
at any moment. What the task handles is what the ring holds when the handler runs.

`SafeOp` says when an operation is harmless, and `no_request_lost_iff` that exactly the runs of
harmless operations hand every accepted request on, once and unchanged. With the ring read through
its pointers the state is the one of `Delivery`, whose ledger carries the proof; only the stored
byte is new.
-/

set_option autoImplicit false

namespace ClimateNode.Application

open ClimateNode.Core ClimateNode.Service ClimateNode.Machine ClimateNode.Platforms

/-- The node with the receive ring, and with the server's request by its pointer. -/
structure RingNode (F : Type) where
  sys : AppSys F
  diag : Diagnostics
  regs : ModbusRegMap
  srv : Option SlotServer
  ring : Vector UInt8 uartRxDmaBufSize

/-- The node with the task's position, and the requests accepted and handled so far, each with the
bytes that it had then. -/
structure RingDelivery (F : Type) where
  node : RingNode F
  phase : ModbusPhase
  accepted : List ModbusRequest
  handled : List ModbusRequest

/-- The DMA stores a byte at a place of the ring, an interrupt calls the callback, or the task takes
its next step at a time. -/
inductive RingOp where
  | store (place : Fin uartRxDmaBufSize) (byte : UInt8)
  | deliver (event : SlotEvent uartRxDmaBufSize)
  | task (nowMs : UInt32)

section Model

variable {F : Type}

/-- The node as the code finds it through the pointer of the request. -/
def RingNode.read (n : RingNode F) : Node F :=
  ⟨n.sys, n.diag, n.regs, n.srv.map (SlotServer.read n.ring)⟩

/-- The ring node after code that reads and changes neither the server nor the ring. -/
def RingNode.withNode (n : RingNode F) (result : Node F) : RingNode F :=
  { n with sys := result.sys, diag := result.diag, regs := result.regs }

/-- The server of `modbus_task`, initialised on the first call. -/
def RingDelivery.server (r : RingDelivery F) : SlotServer := r.node.srv.getD (slotServerInit 1 5)

/-- The request that the parser accepts from an event, with its bytes at this moment. -/
def ringAccepted (n : RingNode F) : SlotEvent uartRxDmaBufSize → Option ModbusRequest
  | .rxChunk chunk =>
      n.srv.bind fun srv =>
        let r := slotParseRequest n.ring chunk srv.slaveAddr srv.request
        if r.1 = .ok then some (r.2.read n.ring) else none
  | .txComplete | .error => none

/-- One step of `modbus_task`. -/
def ringTaskStep (d : FlashDriver F) (nowMs : UInt32) (r : RingDelivery F) : RingDelivery F :=
  match r.phase with
  | .idle =>
      { r with
        node := { r.node with srv := some r.server }
        phase := if r.server.event = .request then .handle else .testOther }
  | .testOther =>
      if r.server.event ≠ .none then { r with phase := .clear }
      else { r with node := r.node.withNode (markTicket r.node.read ticketComm), phase := .idle }
  | .handle =>
      -- the handler follows the pointer now
      let req := r.server.request.read r.node.ring
      { r with
        node := r.node.withNode (handleModbusRequest d r.node.read nowMs req).1
        handled := r.handled ++ [req]
        phase := .clear }
  | .clear =>
      { r with
        node := { r.node.withNode (markTicket r.node.read ticketComm) with
          srv := some (slotServerClearEvent r.server) }
        phase := .idle }

/-- One operation. Before the first call of the task no callback is registered. -/
def ringStep (d : FlashDriver F) (r : RingDelivery F) : RingOp → Checked (RingDelivery F)
  | .store place byte => .ok { r with node := { r.node with ring := r.node.ring.set place byte } }
  | .deliver event =>
      .ok { r with
        node := { r.node with
          srv := r.node.srv.map fun srv => slotUartEventCallback r.node.ring srv event }
        accepted := r.accepted ++ (ringAccepted r.node event).toList }
  | .task nowMs => .ok (ringTaskStep d nowMs r)

/-- The node before its first `modbus_task` call, with nothing accepted yet. -/
def ringStart (n : RingNode F) : RingDelivery F := ⟨{ n with srv := none }, .idle, [], []⟩

/-- Nothing accepted is lost, overwritten or handled twice: should nothing more be stored or
delivered, then after two more steps of the task the handler has been given exactly the accepted
requests, in order and as they were accepted. -/
def RequestsKept (d : FlashDriver F) (r : RingDelivery F) : Prop :=
  ∀ nowMs, ((ringTaskStep d nowMs)^[2] r).handled = r.accepted

/-- The slot of the request that waits for the handler. -/
def RingDelivery.waiting (r : RingDelivery F) : Option RequestSlot :=
  match r.phase with
  | .idle => if r.server.event = .request then some r.server.request else none
  | .handle => some r.server.request
  | .testOther | .clear => none

/-- The state with every pointer read. -/
def RingDelivery.read (r : RingDelivery F) : Delivery F :=
  ⟨r.node.read, r.phase, r.accepted, r.handled⟩

/-- A delivery is harmless when it is so where the task stands, and a stored byte when it leaves the
payload of a waiting request as it is. -/
def SafeOp (r : RingDelivery F) : RingOp → Prop
  | .task _ => True
  | .deliver event => SafeDelivery r.read (.deliver (event.read r.node.ring))
  | .store place byte =>
      ∀ slot, r.waiting = some slot → ∀ pos, slot.data = some pos →
        pos ≤ place → place < pos + slot.dataLen → byte = r.node.ring[place]

end Model

/-! ## The steps with the pointers read -/

section Read

variable {F : Type}

theorem RingDelivery.server_read (r : RingDelivery F) :
    r.read.server = r.server.read r.node.ring := by
  obtain ⟨⟨sys, diag, regs, srv, ring⟩, phase, accepted, handled⟩ := r
  cases srv with
  | none => rfl
  | some srv => rfl

theorem RingNode.read_withNode (n : RingNode F) {result : Node F}
    (h : result.srv = n.read.srv) : (n.withNode result).read = result := by
  obtain ⟨sys, diag, regs, srv⟩ := result
  cases h
  rfl

theorem ringAccepted_read (n : RingNode F) (event : SlotEvent uartRxDmaBufSize) :
    acceptedRequest n.read (event.read n.ring) = ringAccepted n event := by
  obtain ⟨sys, diag, regs, srv, ring⟩ := n
  cases event with
  | txComplete => rfl
  | error => rfl
  | rxChunk chunk =>
      cases srv with
      | none => rfl
      | some srv =>
          have hparse := slotParseRequest_read ring chunk srv.slaveAddr srv.request
          simp only [acceptedRequest, ringAccepted, SlotEvent.read, RingNode.read, Option.map_some,
            Option.bind_some, SlotServer.read, hparse]

/-- A step of the task is the step on the requests by value. -/
theorem ringTaskStep_read (d : FlashDriver F) (nowMs : UInt32) (r : RingDelivery F) :
    (ringTaskStep d nowMs r).read = modbusTaskStep d nowMs r.read := by
  have hserver := r.server_read
  have hevent : r.read.server.event = r.server.event := congrArg ModbusServer.event hserver
  have hmark : (markTicket r.node.read ticketComm).srv = r.node.read.srv := rfl
  cases hphase : r.phase with
  | idle =>
      have hphase' : r.read.phase = .idle := hphase
      simp only [ringTaskStep, modbusTaskStep, hphase, hphase', hserver]
      rfl
  | testOther =>
      have hphase' : r.read.phase = .testOther := hphase
      simp only [ringTaskStep, modbusTaskStep, hphase, hphase', hevent]
      by_cases hnone : r.server.event = .none
      · simp only [hnone, ne_eq, not_true_eq_false, if_false, RingDelivery.read,
          RingNode.read_withNode _ hmark]
      · simp only [hnone, ne_eq, not_false_eq_true, if_true]
        rfl
  | handle =>
      have hphase' : r.read.phase = .handle := hphase
      -- the handler leaves the server alone, so the result fits the ring node
      have hkeep := srv_handleModbusRequest d r.node.read nowMs (r.server.request.read r.node.ring)
      have hreq : r.read.server.request = r.server.request.read r.node.ring :=
        congrArg ModbusServer.request hserver
      simp only [ringTaskStep, modbusTaskStep, hphase, hphase', hreq]
      simp only [RingDelivery.read, RingNode.read_withNode _ hkeep]
  | clear =>
      have hphase' : r.read.phase = .clear := hphase
      simp only [ringTaskStep, modbusTaskStep, hphase, hphase', hserver]
      rfl

theorem ringTaskStep_iterate_read (d : FlashDriver F) (nowMs : UInt32) (k : Nat)
    (r : RingDelivery F) :
    ((ringTaskStep d nowMs)^[k] r).read = taskSteps d nowMs k r.read := by
  induction k generalizing r with
  | zero => rfl
  | succ k ih =>
      show ((ringTaskStep d nowMs)^[k] (ringTaskStep d nowMs r)).read =
        (modbusTaskStep d nowMs)^[k] (modbusTaskStep d nowMs r.read)
      rw [ih, ringTaskStep_read]
      rfl

/-- The state after a delivery. -/
def RingDelivery.delivered (r : RingDelivery F) (event : SlotEvent uartRxDmaBufSize) :
    RingDelivery F :=
  { r with
    node := { r.node with
      srv := r.node.srv.map fun srv => slotUartEventCallback r.node.ring srv event }
    accepted := r.accepted ++ (ringAccepted r.node event).toList }

/-- A delivery is the delivery of the bytes that the range holds. -/
theorem delivered_read (d : FlashDriver F) (r : RingDelivery F)
    (event : SlotEvent uartRxDmaBufSize) :
    deliveryStep d r.read (.deliver (event.read r.node.ring)) = .ok (r.delivered event).read := by
  have haccepted := ringAccepted_read r.node event
  obtain ⟨⟨sys, diag, regs, srv, ring⟩, phase, accepted, handled⟩ := r
  simp only [deliveryStep, RingDelivery.read, RingDelivery.delivered] at haccepted ⊢
  rw [haccepted]
  cases srv with
  | none => rfl
  | some srv =>
      have hcallback := slotUartEventCallback_read ring srv event
      simp only [deliverUart, RingNode.read, Option.map_some, List.foldl_cons, List.foldl_nil,
        hcallback]

/-- The request that is handled next is the waiting slot, read. -/
theorem nextHandled_read (r : RingDelivery F) :
    nextHandled r.read = (r.waiting.map (RequestSlot.read r.node.ring)).toList := by
  have hserver := r.server_read
  have hevent : r.read.server.event = r.server.event := congrArg ModbusServer.event hserver
  have hreq : r.read.server.request = r.server.request.read r.node.ring :=
    congrArg ModbusServer.request hserver
  have hphase : r.read.phase = r.phase := rfl
  simp only [nextHandled, RingDelivery.waiting, hphase, hevent, hreq]
  cases r.phase with
  | idle =>
      by_cases hrequest : r.server.event = .request
      · simp only [hrequest, if_true, Option.map_some, Option.toList_some]
      · simp only [hrequest, if_false, Option.map_none, Option.toList_none]
  | _ => rfl

/-- Nothing is lost in a state exactly when its ledger is right. -/
theorem requestsKept_iff (d : FlashDriver F) (r : RingDelivery F) :
    RequestsKept d r ↔ r.read.handled ++ nextHandled r.read = r.read.accepted := by
  have htwo (nowMs : UInt32) : ((ringTaskStep d nowMs)^[2] r).handled =
      r.read.handled ++ nextHandled r.read := by
    rw [← handled_taskSteps_two d nowMs, ← ringTaskStep_iterate_read]
    rfl
  simp only [RequestsKept, htwo, forall_const]
  rfl

end Read

/-! ## Stored bytes -/

section Store

variable {F : Type} {r : RingDelivery F}

/-- The state after a stored byte. -/
def RingDelivery.stored (r : RingDelivery F) (place : Fin uartRxDmaBufSize) (byte : UInt8) :
    RingDelivery F :=
  { r with node := { r.node with ring := r.node.ring.set place byte } }

/-- A stored byte leaves the next request alone exactly when it is harmless. -/
theorem nextHandled_stored_iff (r : RingDelivery F) (place : Fin uartRxDmaBufSize) (byte : UInt8) :
    nextHandled (r.stored place byte).read = nextHandled r.read ↔
      SafeOp r (.store place byte) := by
  have hwaiting : (r.stored place byte).waiting = r.waiting := rfl
  rw [nextHandled_read, nextHandled_read, hwaiting]
  show (r.waiting.map (RequestSlot.read (r.node.ring.set place byte))).toList = _ ↔ _
  simp only [SafeOp]
  cases r.waiting with
  | none => simp
  | some slot =>
      simp only [Option.map_some, Option.toList_some, List.cons.injEq, and_true, Option.some.injEq,
        forall_eq']
      exact RequestSlot.read_set_iff r.node.ring slot place byte

/-- A harmless byte keeps the invariant. -/
theorem stored_ledgerInv (h : LedgerInv r.read) {place : Fin uartRxDmaBufSize} {byte : UInt8}
    (hsafe : SafeOp r (.store place byte)) : LedgerInv (r.stored place byte).read := by
  have hserver : (r.stored place byte).read.server.event = r.read.server.event := by
    rw [RingDelivery.server_read, RingDelivery.server_read]
    rfl
  refine ⟨?_, ?_, ?_, h.shaped⟩
  · rw [(nextHandled_stored_iff r place byte).2 hsafe]
    exact h.ledger
  · intro hphase
    obtain ⟨srv, hsrv⟩ := h.started hphase
    cases hslot : r.node.srv with
    | none =>
        rw [RingDelivery.read, RingNode.read, hslot] at hsrv
        cases hsrv
    | some slot =>
        refine ⟨slot.read (r.node.ring.set place byte), ?_⟩
        show (r.node.srv.map _) = _
        rw [hslot]
        rfl
  · intro hphase
    rw [hserver]
    exact h.tested hphase

end Store

/-! ## Runs -/

section Runs

variable {F : Type}

theorem ringStart_read (n : RingNode F) : (ringStart n).read = deliveryStart n.read := rfl

/-- A harmless operation keeps the invariant. -/
theorem ringStep_ledgerInv (d : FlashDriver F) {r : RingDelivery F} (op : RingOp)
    (h : LedgerInv r.read) (hsafe : SafeOp r op) :
    ∃ t, ringStep d r op = .ok t ∧ LedgerInv t.read := by
  cases op with
  | store place byte => exact ⟨_, rfl, stored_ledgerInv h hsafe⟩
  | task nowMs =>
      refine ⟨_, rfl, ?_⟩
      rw [ringTaskStep_read]
      exact modbusTaskStep_ledgerInv d nowMs h
  | deliver event =>
      refine ⟨r.delivered event, rfl, ?_⟩
      have hstep := delivered_read d r event
      cases hsrv : r.read.node.srv with
      | none =>
          rw [deliver_stopped hsrv] at hstep
          rw [← Except.ok.inj hstep]
          exact h
      | some srv => exact deliver_ledgerInv h (deliversTo_of_step hsrv hstep) hsafe

/-- An operation that is not harmless spoils the ledger at once. -/
theorem not_requestsKept_of_not_safeOp (d : FlashDriver F) {r t : RingDelivery F} {op : RingOp}
    (h : LedgerInv r.read) (hbad : ¬ SafeOp r op) (ht : ringStep d r op = .ok t) :
    ¬ RequestsKept d t := by
  intro hkept
  have hledger := (requestsKept_iff d t).1 hkept
  cases op with
  | task nowMs => exact hbad trivial
  | store place byte =>
      cases ht
      -- the accepted requests are still what was handled and what waited
      have hsame : r.read.handled ++ nextHandled (r.stored place byte).read =
          r.read.handled ++ nextHandled r.read := hledger.trans h.ledger.symm
      exact hbad ((nextHandled_stored_iff r place byte).1 (List.append_cancel_left hsame))
  | deliver event =>
      cases ht
      have hstep := delivered_read d r event
      cases hsrv : r.read.node.srv with
      | none => exact hbad (safeDelivery_stopped h hsrv _)
      | some srv =>
          exact hbad ((ledger_deliver_iff h (deliversTo_of_step hsrv hstep)).1 hledger)

/-- In every run from the start of the task, no accepted request is lost, overwritten or handled
twice in any state exactly when every operation of the run is harmless where the task stands. -/
theorem no_request_lost_iff (d : FlashDriver F) (n : RingNode F) (ops : List RingOp) :
    AlwaysAlong (ringStep d) (RequestsKept d) (ringStart n) ops ↔
      StepsMeet (ringStep d) SafeOp (ringStart n) ops := by
  apply alwaysAlong_iff_stepsMeet (I := fun r => LedgerInv r.read)
  · exact fun r h => (requestsKept_iff d r).2 h.ledger
  · exact fun r op h hsafe => ringStep_ledgerInv d op h hsafe
  · exact fun r op t h hbad ht => not_requestsKept_of_not_safeOp d h hbad ht
  · rw [ringStart_read]
    exact ledgerInv_start n.read

end Runs

/-! ## The driver's part -/

/-- The receive ring once `uart1_async_init` has started the receiver. -/
structure Receiver where
  ring : UartRx
  running : DmaRunning ring
  last : ring.lastRxPos ≤ uartRxDmaBufSize

/-- A byte on the line, an interrupt with the IDLE flag set, one at the end of a transmission, or
the next step of the task at a time. -/
inductive LineOp where
  | byte (byte : UInt8)
  | idle
  | txComplete
  | task (nowMs : UInt32)

namespace Receiver

def init (u : UartRx) : Receiver where
  ring := uart1RxInit u
  running := (drained_uart1RxInit u).running
  last := Nat.zero_le _

def store (v : Receiver) (byte : UInt8) : Receiver where
  ring := dmaStore v.ring byte
  running := (dmaStore_spec v.running byte).1
  last := v.last

def idle (v : Receiver) : Receiver where
  ring := (usart1IrqHandler v.ring).2
  running := (drained_interrupt v.running).running
  last := by
    rw [usart1IrqHandler_ring]
    exact Nat.le_of_lt v.running.dmaPos_lt

/-- Where the DMA stores the next byte. -/
def place (v : Receiver) : Fin uartRxDmaBufSize := ⟨v.ring.dmaPos, v.running.dmaPos_lt⟩

/-- The ranges that the IDLE interrupt passes on. -/
def chunks (v : Receiver) : List (MemRange uartRxDmaBufSize) :=
  (chunkRanges v.ring).pmap (fun range inside => ⟨range.1, range.2, inside⟩)
    (chunkRanges_inside v.last)

/-- What the line and the task do, as operations on the ring. -/
def ringOps : Receiver → List LineOp → List RingOp
  | _, [] => []
  | v, .byte byte :: ops => .store v.place byte :: (v.store byte).ringOps ops
  | v, .idle :: ops => v.chunks.map (fun chunk => .deliver (.rxChunk chunk)) ++ v.idle.ringOps ops
  | v, .txComplete :: ops => .deliver .txComplete :: v.ringOps ops
  | v, .task nowMs :: ops => .task nowMs :: v.ringOps ops

/-- The receiver after them. -/
def after : Receiver → List LineOp → Receiver
  | v, [] => v
  | v, .byte byte :: ops => (v.store byte).after ops
  | v, .idle :: ops => v.idle.after ops
  | v, .txComplete :: ops => v.after ops
  | v, .task _ :: ops => v.after ops

/-- The ranges hold the chunks that the interrupt handler hands to the callback. -/
theorem chunks_bytes (v : Receiver) :
    v.chunks.map (fun chunk => UartEvent.rxChunk (chunk.bytes v.ring.rxDmaBuffer)) =
      (usart1IrqHandler v.ring).1 := by
  rw [usart1IrqHandler_chunks, chunks, List.map_pmap, ← List.pmap_eq_map]
  rfl

theorem store_ring (v : Receiver) (byte : UInt8) :
    v.ring.rxDmaBuffer.set v.place byte = (v.store byte).ring.rxDmaBuffer := by
  apply Vector.toList_inj.1
  rw [Vector.toList_set]
  exact (dmaStore_spec v.running byte).2.2.1.symm

theorem idle_ring (v : Receiver) : v.idle.ring.rxDmaBuffer = v.ring.rxDmaBuffer := by
  show (usart1IrqHandler v.ring).2.rxDmaBuffer = _
  rw [usart1IrqHandler_ring]

section Run

variable {F : Type} {d : FlashDriver F}

theorem run_deliver_ring (r : RingDelivery F) (events : List (SlotEvent uartRxDmaBufSize)) :
    ∃ t, run (ringStep d) r (events.map .deliver) = .ok t ∧ t.node.ring = r.node.ring := by
  induction events generalizing r with
  | nil => exact ⟨r, rfl, rfl⟩
  | cons event events ih =>
      obtain ⟨t, ht, hring⟩ := ih (r.delivered event)
      have hstep : ringStep d r (.deliver event) = .ok (r.delivered event) := rfl
      exact ⟨t, (run_cons_ok hstep _).trans ht, hring⟩

theorem ringTaskStep_ring (nowMs : UInt32) (r : RingDelivery F) :
    (ringTaskStep d nowMs r).node.ring = r.node.ring := by
  cases hphase : r.phase with
  | testOther =>
      simp only [ringTaskStep, hphase]
      split
      · rfl
      · rfl
  | _ => simp only [ringTaskStep, hphase, RingNode.withNode]

/-- In a run of these operations the ring of the node stays the ring of the driver. -/
theorem run_ringOps_ring (v : Receiver) {r : RingDelivery F}
    (hring : r.node.ring = v.ring.rxDmaBuffer) (ops : List LineOp) :
    ∃ t, run (ringStep d) r (v.ringOps ops) = .ok t ∧
      t.node.ring = (v.after ops).ring.rxDmaBuffer := by
  induction ops generalizing v r with
  | nil => exact ⟨r, rfl, hring⟩
  | cons op ops ih =>
      cases op with
      | byte byte =>
          -- the place is the one that the driver's counter stands for
          have hstored : (r.stored v.place byte).node.ring = (v.store byte).ring.rxDmaBuffer := by
            rw [← store_ring, ← hring]
            rfl
          obtain ⟨t, ht, hend⟩ := ih (v.store byte) hstored
          have hstep : ringStep d r (.store v.place byte) = .ok (r.stored v.place byte) := rfl
          exact ⟨t, (run_cons_ok hstep _).trans ht, hend⟩
      | idle =>
          -- deliveries read the ring and leave it as it is
          obtain ⟨m, hm, hkeep⟩ :=
            run_deliver_ring (d := d) r (v.chunks.map SlotEvent.rxChunk)
          have hmap : v.chunks.map (fun chunk => RingOp.deliver (.rxChunk chunk)) =
              (v.chunks.map SlotEvent.rxChunk).map .deliver := by
            rw [List.map_map]
            rfl
          obtain ⟨t, ht, hend⟩ := ih v.idle (hkeep.trans (hring.trans v.idle_ring.symm))
          refine ⟨t, ?_, hend⟩
          rw [ringOps, hmap, run_append_ok hm]
          exact ht
      | txComplete =>
          obtain ⟨t, ht, hend⟩ := ih v (r := r.delivered .txComplete) hring
          have hstep : ringStep d r (.deliver .txComplete) = .ok (r.delivered .txComplete) := rfl
          exact ⟨t, (run_cons_ok hstep _).trans ht, hend⟩
      | task nowMs =>
          obtain ⟨t, ht, hend⟩ := ih v ((ringTaskStep_ring (d := d) nowMs r).trans hring)
          have hstep : ringStep d r (.task nowMs) = .ok (ringTaskStep d nowMs r) := rfl
          exact ⟨t, (run_cons_ok hstep _).trans ht, hend⟩

end Run

end Receiver

/-! ## A lost request -/

/-- A read of the relay register, and one of the state register. -/
def relayRead : List UInt8 := [0x01, 0x03, 0x00, 0x03, 0x00, 0x01, 0x74, 0x0A]
def stateRead : List UInt8 := [0x01, 0x03, 0x00, 0x04, 0x00, 0x01, 0xC5, 0xCB]

/-- The first request is handled; the second arrives before the event is cleared. -/
def requestDuringHandling : List LineOp :=
  [.task 0, .task 0] ++ relayRead.map .byte ++ [.idle, .task 1, .task 1] ++ stateRead.map .byte ++
    [.idle, .task 1, .task 2, .task 2]

/-- The node that the firmware boots into on an empty flash. -/
def bootedRing : RingNode Stm32f1Flash :=
  let n := mcuBoot stm32f1Flash ⟨[], 0⟩ stm32f1Erased .powerOn 0
  ⟨n.sys, n.diag, n.regs, none, Vector.replicate uartRxDmaBufSize 0⟩

/-- The second request is never handled. -/
theorem request_lost_during_handling :
    ¬ ∀ (F : Type) (d : FlashDriver F) (n : RingNode F) (ops : List RingOp),
      AlwaysAlong (ringStep d) (RequestsKept d) (ringStart n) ops := by
  intro h
  have hall := h Stm32f1Flash stm32f1Flash bootedRing
    ((Receiver.init ⟨Vector.replicate uartRxDmaBufSize 0, 0, 0⟩).ringOps requestDuringHandling)
  obtain ⟨t, ht, hkept⟩ := alwaysAlong_iff_prefix.1 hall _ (List.prefix_refl _)
  have hend : (run (ringStep stm32f1Flash) (ringStart bootedRing)
      ((Receiver.init ⟨Vector.replicate uartRxDmaBufSize 0, 0, 0⟩).ringOps
        requestDuringHandling)).toOption.map
        (fun r => (((ringTaskStep stm32f1Flash 3)^[2] r).handled.length, r.accepted.length)) =
      some (1, 2) := by
    decide +kernel
  rw [ht] at hend
  injection hend with hpair
  injection hpair with hhandled haccepted
  rw [hkept 3, haccepted] at hhandled
  cases hhandled

end ClimateNode.Application
