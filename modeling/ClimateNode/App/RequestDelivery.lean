import ClimateNode.App.MainMcu
import ClimateNode.Service.ModbusFrames

/-!
# Delivery of requests to the task

The receive interrupt and `modbus_task` share one event field and one request slot. Here the task
runs step by step, each test of the event, the handler and the clearing of the event being one step,
and the interrupt may deliver a chunk between any two of them. Two lists record the requests that
the parser accepted and the ones that the handler was given.

A request is taken by value here, as the ring shows it through the slot's pointer. This module has
the part in which no byte changes under a waiting request: `LedgerInv` ties the two lists together,
a step of the task keeps it, and a delivery keeps it exactly when `SafeDelivery` holds.
-/

set_option autoImplicit false

namespace ClimateNode.Application

open ClimateNode.Core ClimateNode.Service ClimateNode.Machine ClimateNode.Platforms

/-- Where `modbus_task` stands: before its test for a request, before its test for another event,
before the handler, before the event is cleared. -/
inductive ModbusPhase where
  | idle
  | testOther
  | handle
  | clear
  deriving DecidableEq, Repr

/-- The node with the task's position, and the requests accepted and handled so far. -/
structure Delivery (F : Type) where
  node : Node F
  phase : ModbusPhase
  accepted : List ModbusRequest
  handled : List ModbusRequest

/-- A UART event from an interrupt, or the next step of the task at a time. -/
inductive DeliveryOp where
  | deliver (event : UartEvent)
  | task (nowMs : UInt32)

section Delivery

variable {F : Type}

@[simp] theorem modbusTaskServer_some (sys : AppSys F) (diag : Diagnostics) (regs : ModbusRegMap)
    (srv : ModbusServer) : modbusTaskServer ⟨sys, diag, regs, some srv⟩ = srv := rfl

/-- The server that the interrupt and the task share. -/
def Delivery.server (s : Delivery F) : ModbusServer := modbusTaskServer s.node

/-- The request that the parser accepts from a UART event. -/
def acceptedRequest (n : Node F) : UartEvent → Option ModbusRequest
  | .rxChunk data =>
      n.srv.bind fun srv =>
        let r := modbusParseRequest data srv.slaveAddr srv.request
        if r.1 = .ok then some r.2 else none
  | .txComplete | .error => none

/-- One step of `modbus_task`. -/
def modbusTaskStep (d : FlashDriver F) (nowMs : UInt32) (s : Delivery F) : Delivery F :=
  match s.phase with
  | .idle =>
      { s with
        node := { s.node with srv := some s.server }
        phase := if s.server.event = .request then .handle else .testOther }
  | .testOther =>
      if s.server.event ≠ .none then { s with phase := .clear }
      else { s with node := markTicket s.node ticketComm, phase := .idle }
  | .handle =>
      { s with
        node := (handleModbusRequest d s.node nowMs s.server.request).1
        handled := s.handled ++ [s.server.request]
        phase := .clear }
  | .clear =>
      { s with
        node := markTicket { s.node with srv := some (modbusServerClearEvent s.server) } ticketComm
        phase := .idle }

/-- One operation. -/
def deliveryStep (d : FlashDriver F) (s : Delivery F) : DeliveryOp → Checked (Delivery F)
  | .deliver event =>
      .ok { s with
        node := deliverUart s.node [event]
        accepted := s.accepted ++ (acceptedRequest s.node event).toList }
  | .task nowMs => .ok (modbusTaskStep d nowMs s)

/-- The node before its first `modbus_task` call, with nothing accepted yet. -/
def deliveryStart (n : Node F) : Delivery F := ⟨{ n with srv := none }, .idle, [], []⟩

theorem srv_handleModbusRequest (d : FlashDriver F) (n : Node F) (nowMs : UInt32)
    (req : ModbusRequest) : (handleModbusRequest d n nowMs req).1.srv = n.srv := by
  by_cases hread : req.function = 0x03
  · simp only [handleModbusRequest, if_pos hread]
    rfl
  · by_cases hwrite : req.function = 0x06
    · simp only [handleModbusRequest, if_neg hread, if_pos hwrite, handleWrite]
      split
      · split
        · rfl
        · rfl
      · rfl
    · simp only [handleModbusRequest, if_neg hread, if_neg hwrite]
      rfl

/-- The steps of the task without a delivery in between. -/
def taskSteps (d : FlashDriver F) (nowMs : UInt32) (k : Nat) (s : Delivery F) : Delivery F :=
  (modbusTaskStep d nowMs)^[k] s

/-- Uninterrupted, the steps are one `modbus_task` call. -/
theorem taskSteps_eq_modbusTask (d : FlashDriver F) (i : McuInput) (s : Delivery F)
    (h : s.phase = .idle) :
    ∃ k, 0 < k ∧ (taskSteps d i.nowMs k s).phase = .idle ∧
      (taskSteps d i.nowMs k s).node = modbusTask d i s.node := by
  obtain ⟨n, phase, accepted, handled⟩ := s
  cases h
  cases hev : (modbusTaskServer n).event with
  | request =>
      refine ⟨3, by decide, ?_⟩
      have hkeep : modbusTaskServer (handleModbusRequest d
          { n with srv := some (modbusTaskServer n) } i.nowMs (modbusTaskServer n).request).1 =
          modbusTaskServer n := by
        rw [modbusTaskServer, srv_handleModbusRequest]
        rfl
      simp only [taskSteps, Function.iterate_succ_apply, Function.iterate_zero_apply,
        modbusTaskStep, Delivery.server, hev, if_true, modbusTaskServer_some, modbusTask,
        modbusServerTask]
      exact ⟨trivial, by rw [hkeep]⟩
  | none =>
      refine ⟨2, by decide, ?_⟩
      simp [taskSteps, modbusTaskStep, Delivery.server, modbusTask, modbusServerTask, hev]
  | _ =>
      -- the other events are cleared without a handler
      refine ⟨3, by decide, ?_⟩
      simp [taskSteps, modbusTaskStep, Delivery.server, modbusTask, modbusServerTask, hev]

/-! ## The ledger of requests -/

/-- The request that the task is about to handle, if nothing is delivered first. -/
def nextHandled (s : Delivery F) : List ModbusRequest :=
  match s.phase with
  | .idle => if s.server.event = .request then [s.server.request] else []
  | .handle => [s.server.request]
  | .testOther | .clear => []

/-- Two more steps of the task handle it, and nothing else. -/
theorem handled_taskSteps_two (d : FlashDriver F) (nowMs : UInt32) (s : Delivery F) :
    (taskSteps d nowMs 2 s).handled = s.handled ++ nextHandled s := by
  obtain ⟨n, phase, accepted, handled⟩ := s
  cases phase with
  | idle =>
      by_cases hev : (modbusTaskServer n).event = .request
      · simp [taskSteps, modbusTaskStep, nextHandled, Delivery.server, hev]
      · by_cases hnone : (modbusTaskServer n).event = .none
        · simp [taskSteps, modbusTaskStep, nextHandled, Delivery.server, hnone]
        · simp [taskSteps, modbusTaskStep, nextHandled, Delivery.server, hev, hnone]
  | testOther =>
      by_cases hnone : (modbusTaskServer n).event = .none
      · simp [taskSteps, modbusTaskStep, nextHandled, Delivery.server, hnone]
      · simp [taskSteps, modbusTaskStep, nextHandled, Delivery.server, hnone]
  | handle => simp [taskSteps, modbusTaskStep, nextHandled, Delivery.server]
  | clear => simp [taskSteps, modbusTaskStep, nextHandled, Delivery.server]

/-- The parser writes the request slot for this event. -/
def FillsRequest (n : Node F) : UartEvent → Prop
  | .rxChunk data => ∃ srv, n.srv = some srv ∧
      (modbusParseRequest data srv.slaveAddr srv.request).1 ∈
        [ModbusParseErr.ok, .unsupportedFunc, .badLength]
  | .txComplete | .error => False

/-- A delivery is harmless where the task stands: before the first test, when no request waits or
the event is none of the receiver's; before the handler, when the request slot is left alone; and
before the second test and the clearing, when no request is accepted. -/
def SafeDelivery (s : Delivery F) : DeliveryOp → Prop
  | .task _ => True
  | .deliver event =>
      match s.phase with
      | .idle => s.server.event = .request → event = .txComplete
      | .handle => ¬ FillsRequest s.node event
      | .testOther | .clear => acceptedRequest s.node event = none

/-- The invariant of the runs whose deliveries are all harmless. -/
structure LedgerInv (s : Delivery F) : Prop where
  ledger : s.handled ++ nextHandled s = s.accepted
  /-- Only the first call of the task makes the server. -/
  started : s.phase ≠ .idle → ∃ srv, s.node.srv = some srv
  tested : s.phase = .testOther → s.server.event ≠ .request
  shaped : ∀ req ∈ s.accepted, WellShaped req

theorem ledgerInv_start (n : Node F) : LedgerInv (deliveryStart n) where
  ledger := rfl
  started := fun h => absurd rfl h
  tested := by rintro ⟨⟩
  shaped := by rintro req ⟨⟩

/-- A step of the task only moves the waiting request to the handled ones. -/
theorem ledger_modbusTaskStep (d : FlashDriver F) (nowMs : UInt32) (s : Delivery F) :
    (modbusTaskStep d nowMs s).handled ++ nextHandled (modbusTaskStep d nowMs s) =
      s.handled ++ nextHandled s := by
  obtain ⟨n, phase, accepted, handled⟩ := s
  cases phase with
  | idle =>
      by_cases hev : (modbusTaskServer n).event = .request
      · simp [modbusTaskStep, nextHandled, Delivery.server, hev]
      · simp [modbusTaskStep, nextHandled, Delivery.server, hev]
  | testOther =>
      by_cases hnone : (modbusTaskServer n).event = .none
      · have hmark : (modbusTaskServer (markTicket n ticketComm)).event = .none := hnone
        simp [modbusTaskStep, nextHandled, Delivery.server, hnone, hmark]
      · simp [modbusTaskStep, nextHandled, Delivery.server, hnone]
  | handle => simp [modbusTaskStep, nextHandled]
  | clear =>
      have hclear : (modbusTaskServer (markTicket { n with
          srv := some (modbusServerClearEvent (modbusTaskServer n)) } ticketComm)).event =
            .none := rfl
      simp [modbusTaskStep, nextHandled, Delivery.server, hclear]

/-- A step of the task keeps the invariant. -/
theorem modbusTaskStep_ledgerInv (d : FlashDriver F) (nowMs : UInt32) {s : Delivery F}
    (h : LedgerInv s) : LedgerInv (modbusTaskStep d nowMs s) := by
  have hledger := ledger_modbusTaskStep d nowMs s
  rw [h.ledger] at hledger
  obtain ⟨n, phase, accepted, handled⟩ := s
  cases phase with
  | idle =>
      refine ⟨hledger, fun _ => ⟨_, rfl⟩, fun htest hreq => ?_, h.shaped⟩
      -- the first test has sent a request to the handler
      have hev : (modbusTaskServer n).event = .request := hreq
      simp [modbusTaskStep, Delivery.server, hev] at htest
  | testOther =>
      by_cases hnone : (modbusTaskServer n).event = .none
      · have hstep : modbusTaskStep d nowMs ⟨n, .testOther, accepted, handled⟩ =
            ⟨markTicket n ticketComm, .idle, accepted, handled⟩ := by
          simp [modbusTaskStep, Delivery.server, hnone]
        rw [hstep] at hledger ⊢
        exact ⟨hledger, fun hne => absurd rfl hne, by rintro ⟨⟩, h.shaped⟩
      · have hstep : modbusTaskStep d nowMs ⟨n, .testOther, accepted, handled⟩ =
            ⟨n, .clear, accepted, handled⟩ := by
          simp [modbusTaskStep, Delivery.server, hnone]
        rw [hstep] at hledger ⊢
        exact ⟨hledger, fun _ => h.started (by rintro ⟨⟩), by rintro ⟨⟩, h.shaped⟩
  | handle =>
      refine ⟨hledger, fun _ => ?_, by rintro ⟨⟩, h.shaped⟩
      obtain ⟨srv, hsrv⟩ := h.started (by rintro ⟨⟩)
      exact ⟨srv, (srv_handleModbusRequest d n nowMs _).trans hsrv⟩
  | clear => exact ⟨hledger, fun hne => absurd rfl hne, by rintro ⟨⟩, h.shaped⟩

/-! ## Deliveries -/

/-- Before the first call of the task there is no server to deliver to. -/
theorem deliver_stopped {s : Delivery F} (h : s.node.srv = none) (d : FlashDriver F)
    (event : UartEvent) : deliveryStep d s (.deliver event) = .ok s := by
  obtain ⟨⟨sys, diag, regs, srv⟩, phase, accepted, handled⟩ := s
  cases h
  cases event with
  | _ => simp [deliveryStep, deliverUart, acceptedRequest]

/-- The four kinds of delivery to a server: one that changes nothing, a rejected one that leaves the
request slot alone, a rejected one that overwrites it, and an accepted request. -/
inductive DeliveryEffect (n : Node F) (srv : ModbusServer) : UartEvent → Prop where
  | quiet : DeliveryEffect n srv .txComplete
  | rejected (event : UartEvent) (hne : event ≠ .txComplete)
      (hevent : (modbusUartEventCallback srv event).event ≠ .request)
      (hreq : (modbusUartEventCallback srv event).request = srv.request)
      (hnone : acceptedRequest n event = none) (hfills : ¬ FillsRequest n event) :
      DeliveryEffect n srv event
  | filled (event : UartEvent) (hne : event ≠ .txComplete)
      (hevent : (modbusUartEventCallback srv event).event ≠ .request)
      (hreq : ¬ WellShaped (modbusUartEventCallback srv event).request)
      (hnone : acceptedRequest n event = none) (hfills : FillsRequest n event) :
      DeliveryEffect n srv event
  | accepted (event : UartEvent) (hne : event ≠ .txComplete)
      (hevent : (modbusUartEventCallback srv event).event = .request)
      (hreq : WellShaped (modbusUartEventCallback srv event).request)
      (hsome : acceptedRequest n event = some (modbusUartEventCallback srv event).request)
      (hfills : FillsRequest n event) : DeliveryEffect n srv event

theorem event_modbusRxChunk (srv : ModbusServer) (data : List UInt8) :
    (modbusRxChunk srv data).event =
        parseEvent (modbusParseRequest data srv.slaveAddr srv.request).1 ∧
      (modbusRxChunk srv data).request = (modbusParseRequest data srv.slaveAddr srv.request).2 := by
  simp only [modbusRxChunk]
  split
  · exact ⟨rfl, rfl⟩
  · exact ⟨rfl, rfl⟩

theorem deliveryEffect {n : Node F} {srv : ModbusServer} (h : n.srv = some srv)
    (event : UartEvent) : DeliveryEffect n srv event := by
  cases event with
  | txComplete => exact .quiet
  | error => exact .rejected _ (by rintro ⟨⟩) (by rintro ⟨⟩) rfl rfl id
  | rxChunk data =>
      obtain ⟨hevent, hreq⟩ := event_modbusRxChunk srv data
      obtain ⟨hkept, hfilled⟩ := modbusParseRequest_out data srv.slaveAddr srv.request
      have hfills : FillsRequest n (.rxChunk data) ↔
          (modbusParseRequest data srv.slaveAddr srv.request).1 ∈
            [ModbusParseErr.ok, .unsupportedFunc, .badLength] := by
        simp only [FillsRequest, h, Option.some.injEq, exists_eq_left']
      have haccepted : acceptedRequest n (.rxChunk data) =
          if (modbusParseRequest data srv.slaveAddr srv.request).1 = .ok then
            some (modbusParseRequest data srv.slaveAddr srv.request).2 else none := by
        simp only [acceptedRequest, h, Option.bind_some]
      by_cases hok : (modbusParseRequest data srv.slaveAddr srv.request).1 = .ok
      · have hmem := hfills.2 (by rw [hok]; exact List.mem_cons_self)
        refine .accepted _ (by rintro ⟨⟩) ?_ ?_ ?_ hmem
        · exact hevent.trans ((parseEvent_eq_request_iff _).2 hok)
        · show WellShaped (modbusRxChunk srv data).request
          rw [hreq]
          exact (hfilled (hfills.1 hmem)).1 hok
        · rw [haccepted, if_pos hok]
          exact congrArg some hreq.symm
      · have hnone : acceptedRequest n (.rxChunk data) = none := by rw [haccepted, if_neg hok]
        have hother : (modbusUartEventCallback srv (.rxChunk data)).event ≠ .request :=
          fun hr => hok ((parseEvent_eq_request_iff _).1 (hevent.symm.trans hr))
        by_cases hmem : FillsRequest n (.rxChunk data)
        · refine .filled _ (by rintro ⟨⟩) hother ?_ hnone hmem
          show ¬ WellShaped (modbusRxChunk srv data).request
          rw [hreq]
          exact fun hshape => hok ((hfilled (hfills.1 hmem)).2 hshape)
        · exact .rejected _ (by rintro ⟨⟩) hother (hreq.trans (hkept (mt hfills.2 hmem))) hnone hmem

section Ledger

variable {d : FlashDriver F} {s t : Delivery F} {srv : ModbusServer} {event : UartEvent}

/-- The delivery `event` to the running server `srv` leads from `s` to `t`. -/
structure DeliversTo (s t : Delivery F) (srv : ModbusServer) (event : UartEvent) : Prop where
  running : s.node.srv = some srv
  phase : t.phase = s.phase
  handled : t.handled = s.handled
  accepted : t.accepted = s.accepted ++ (acceptedRequest s.node event).toList
  delivered : t.node.srv = some (modbusUartEventCallback srv event)

theorem deliversTo_of_step (hsrv : s.node.srv = some srv)
    (ht : deliveryStep d s (.deliver event) = .ok t) : DeliversTo s t srv event := by
  cases ht
  exact ⟨hsrv, rfl, rfl, rfl, by simp [deliverUart, hsrv]⟩

theorem DeliversTo.server (h : DeliversTo s t srv event) :
    s.server = srv ∧ t.server = modbusUartEventCallback srv event := by
  constructor
  · rw [Delivery.server, modbusTaskServer, h.running]
    rfl
  · rw [Delivery.server, modbusTaskServer, h.delivered]
    rfl

/-- Before the first test a delivery keeps the ledger when no request waits, or when it is none of
the receiver's. -/
theorem ledger_deliver_idle (h : LedgerInv s) (hto : DeliversTo s t srv event)
    (hphase : s.phase = .idle) :
    t.handled ++ nextHandled t = t.accepted ↔
      (s.server.event = .request → event = .txComplete) := by
  obtain ⟨hs, ht⟩ := hto.server
  have hledger := h.ledger
  simp only [nextHandled, hto.phase, hphase, hs, ht] at hledger ⊢
  rw [hto.handled, hto.accepted, ← hledger]
  have heffect := deliveryEffect hto.running event
  by_cases hev : srv.event = .request
  · -- a request waits
    simp only [hev, if_true, forall_const]
    cases heffect with
    | quiet => simp [modbusUartEventCallback, acceptedRequest, hev]
    | rejected _ hne hevent hreq hnone => simp [hevent, hnone, hne]
    | filled _ hne hevent hreq hnone => simp [hevent, hnone, hne]
    | accepted _ hne hevent hreq hsome => simp [hevent, hsome, hne]
  · simp only [hev, if_false, List.append_nil, false_implies, iff_true]
    cases heffect with
    | quiet => simp [modbusUartEventCallback, acceptedRequest, hev]
    | rejected _ hne hevent hreq hnone => simp [hevent, hnone]
    | filled _ hne hevent hreq hnone => simp [hevent, hnone]
    | accepted _ hne hevent hreq hsome => simp [hevent, hsome]

/-- Before the handler a delivery keeps the ledger when it leaves the request slot alone. -/
theorem ledger_deliver_handle (h : LedgerInv s) (hto : DeliversTo s t srv event)
    (hphase : s.phase = .handle) :
    t.handled ++ nextHandled t = t.accepted ↔ ¬ FillsRequest s.node event := by
  obtain ⟨hs, ht⟩ := hto.server
  have hledger := h.ledger
  simp only [nextHandled, hto.phase, hphase, hs, ht] at hledger ⊢
  have hshaped : WellShaped srv.request := h.shaped srv.request (by rw [← hledger]; simp)
  rw [hto.handled, hto.accepted, ← hledger]
  cases deliveryEffect hto.running event with
  | quiet => simp [modbusUartEventCallback, acceptedRequest, FillsRequest]
  | rejected _ hne hevent hreq hnone hfills => simp [hreq, hnone, hfills]
  | filled _ hne hevent hreq hnone hfills =>
      -- the slot holds a request that no parse accepts
      have hdiff : (modbusUartEventCallback srv event).request ≠ srv.request := by
        intro heq
        rw [heq] at hreq
        exact hreq hshaped
      simp [hnone, hfills, hdiff]
  | accepted _ hne hevent hreq hsome hfills => simp [hsome, hfills]

/-- Before the second test and before the clearing, a delivery keeps the ledger when nothing is
accepted. -/
theorem ledger_deliver_late (h : LedgerInv s) (hto : DeliversTo s t srv event)
    (hphase : s.phase = .testOther ∨ s.phase = .clear) :
    t.handled ++ nextHandled t = t.accepted ↔ acceptedRequest s.node event = none := by
  have hledger := h.ledger
  have hnext : nextHandled s = [] ∧ nextHandled t = [] := by
    rcases hphase with hphase | hphase
    · simp only [nextHandled, hto.phase, hphase]
      exact ⟨trivial, trivial⟩
    · simp only [nextHandled, hto.phase, hphase]
      exact ⟨trivial, trivial⟩
  rw [hnext.1, List.append_nil] at hledger
  rw [hnext.2, List.append_nil, hto.handled, hto.accepted, ← hledger]
  cases acceptedRequest s.node event with
  | none => simp
  | some req => simp

/-- A delivery keeps the ledger exactly when it is harmless. -/
theorem ledger_deliver_iff (h : LedgerInv s) (hto : DeliversTo s t srv event) :
    t.handled ++ nextHandled t = t.accepted ↔ SafeDelivery s (.deliver event) := by
  cases hphase : s.phase with
  | idle =>
      simp only [SafeDelivery, hphase]
      exact ledger_deliver_idle h hto hphase
  | testOther =>
      simp only [SafeDelivery, hphase]
      exact ledger_deliver_late h hto (Or.inl hphase)
  | handle =>
      simp only [SafeDelivery, hphase]
      exact ledger_deliver_handle h hto hphase
  | clear =>
      simp only [SafeDelivery, hphase]
      exact ledger_deliver_late h hto (Or.inr hphase)

/-- A harmless delivery keeps the invariant. -/
theorem deliver_ledgerInv (h : LedgerInv s) (hto : DeliversTo s t srv event)
    (hsafe : SafeDelivery s (.deliver event)) : LedgerInv t := by
  refine ⟨(ledger_deliver_iff h hto).2 hsafe, fun _ => ⟨_, hto.delivered⟩, ?_, ?_⟩
  · intro hphase hreq
    rw [hto.phase] at hphase
    rw [hto.server.2] at hreq
    have hbefore := h.tested hphase
    rw [hto.server.1] at hbefore
    simp only [SafeDelivery, hphase] at hsafe
    cases deliveryEffect hto.running event with
    | quiet => exact hbefore hreq
    | rejected _ hne hevent => exact hevent hreq
    | filled _ hne hevent => exact hevent hreq
    | accepted _ hne hevent hshape hsome =>
        rw [hsafe] at hsome
        cases hsome
  · intro req hmem
    rw [hto.accepted, List.mem_append] at hmem
    rcases hmem with hmem | hmem
    · exact h.shaped req hmem
    · cases deliveryEffect hto.running event with
      | quiet => cases hmem
      | rejected _ hne hevent hreq hnone =>
          rw [hnone] at hmem
          cases hmem
      | filled _ hne hevent hreq hnone =>
          rw [hnone] at hmem
          cases hmem
      | accepted _ hne hevent hreq hsome =>
          rw [hsome, Option.toList_some, List.mem_singleton] at hmem
          rw [hmem]
          exact hreq

/-- Without a server every delivery is harmless. -/
theorem safeDelivery_stopped (h : LedgerInv s) (hsrv : s.node.srv = none) (event : UartEvent) :
    SafeDelivery s (.deliver event) := by
  have hphase : s.phase = .idle := by
    by_contra hne
    obtain ⟨srv, hsome⟩ := h.started hne
    rw [hsrv] at hsome
    cases hsome
  have hevent : s.server.event = .none := by
    rw [Delivery.server, modbusTaskServer, hsrv]
    rfl
  simp [SafeDelivery, hphase, hevent]

end Ledger

end Delivery

end ClimateNode.Application
