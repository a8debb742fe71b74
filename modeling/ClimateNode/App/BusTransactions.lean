import ClimateNode.App.Bus

/-!
# Transactions on the bus

Runs of the node on the bus, from the boot of the firmware on, in every order of frames, tasks and
interrupts. `bus_refines_register_device`: while a master lets a request be answered before it sends
the next frame, and no frame runs over the end of the ring, what the node transmits is what the
register device answers, one frame for each accepted one, in order.

Along these runs a master reads its own writes: `bus_reads_last_stored` says when a read is answered
with values, and which. A master whose frames all have eight bytes, as the two requests have, never
runs over the end of the ring (`paced_of_eightByteMaster`).
-/

set_option autoImplicit false

namespace ClimateNode.Application

open ClimateNode.Core ClimateNode.Service ClimateNode.Machine ClimateNode.Platforms

section Runs

variable {F : Type} (lut : DewpointLut) {d : FlashDriver F}

/-- A paced run from a state that shows `dev`. -/
theorem busRun_facts (hwrite : TakesWrites d) {s : Bus F} {ops : List BusOp} (h : BusInv s)
    (hops : StepsMeet (busStep lut d) Paced s ops) :
    ∃ s', run (busStep lut d) s ops = .ok s' ∧ BusInv s' ∧
      s'.tx.taken = s.tx.taken ++ answers deviceStep (registerDevice s.task.node)
        (observed (busStep lut d) busEvents s ops) ∧
      s'.task.handled = s.task.handled ++
        (observed (busStep lut d) busEvents s ops).filterMap DeviceEvent.request? ∧
      s'.task.accepted = s.task.accepted ++ observed (busStep lut d) frameRequests s ops := by
  have hanswer : ∀ (s : Bus F) op dev, Shows s dev → Paced s op →
      ∃ s', busStep lut d s op = .ok s' ∧ Shows s' (after deviceStep dev (busEvents s op s')) ∧
        s'.tx.taken = s.tx.taken ++ answers deviceStep dev (busEvents s op s') := by
    rintro s op dev ⟨hI, rfl⟩ hC
    obtain ⟨s', hs, hfacts⟩ := busStep_facts lut hwrite hI op hC
    exact ⟨s', hs, ⟨hfacts.inv, hfacts.device.symm⟩, hfacts.taken⟩
  -- one step of the two records of requests
  have hstep : ∀ (s : Bus F) op s', BusInv s → Paced s op → busStep lut d s op = .ok s' →
      BusStepFacts s op s' := by
    intro s op s' hI hC hs
    obtain ⟨t, ht, hfacts⟩ := busStep_facts lut hwrite hI op hC
    rw [hs] at ht
    cases ht
    exact hfacts
  obtain ⟨s', hrun, ⟨hinv, -⟩, htaken⟩ :=
    run_answers (R := Shows) (f := fun s => s.tx.taken) hanswer ⟨h, rfl⟩ hops
  refine ⟨s', hrun, hinv, htaken, ?_, ?_⟩
  · rw [observed_filterMap]
    exact run_records (f := fun s => s.task.handled) (I := BusInv) (fun s op s' hI hC hs =>
      ⟨(hstep s op s' hI hC hs).inv, (hstep s op s' hI hC hs).handled⟩) h hops hrun
  · exact run_records (f := fun s => s.task.accepted) (I := BusInv) (fun s op s' hI hC hs =>
      ⟨(hstep s op s' hI hC hs).inv, (hstep s op s' hI hC hs).accepted⟩) h hops hrun

/-- From the boot on, in every order of steps and with any samples: while a frame comes only when
the line is quiet and does not run over the end of the ring, what the node has transmitted is what
the register device of the booted node answers to the events of the run. The requests among these
events, with the one that waits, are those of the accepted frames, in order. -/
theorem bus_refines_register_device (hwrite : TakesWrites d) (plat : Platform) (flash : F)
    (cause : ResetCause) (bootMs : UInt32) (rx : UartRx) (log : Logger) {ops : List BusOp}
    (hops : StepsMeet (busStep lut d) Paced
      (busStart (mcuBoot d plat flash cause bootMs) rx log) ops) :
    let start := busStart (mcuBoot d plat flash cause bootMs) rx log
    let events := observed (busStep lut d) busEvents start ops
    ∃ s, run (busStep lut d) start ops = .ok s ∧
      s.tx.taken = answers deviceStep (registerDevice (mcuBoot d plat flash cause bootMs)) events ∧
      events.filterMap DeviceEvent.request? ++ nextHandled s.task =
        observed (busStep lut d) frameRequests start ops ∧
      (nextHandled s.task).length ≤ 1 := by
  have hinv : CtrlInv (mcuBoot d plat flash cause bootMs).sys.app.ctrl :=
    ctrlInv_initExtended _ _ cause
  obtain ⟨s, hrun, hI, htaken, hhandled, haccepted⟩ :=
    busRun_facts lut hwrite (busInv_start hinv rx log) hops
  refine ⟨s, hrun, htaken, ?_, ?_⟩
  · have hledger := hI.ledger.ledger
    rw [hhandled, haccepted] at hledger
    exact hledger
  · unfold nextHandled
    split
    · split
      · exact Nat.le_refl 1
      · exact Nat.zero_le 1
    · exact Nat.le_refl 1
    · exact Nat.zero_le 1
    · exact Nat.zero_le 1

end Runs

/-! ## Frames of eight bytes -/

section EightBytes

variable {F : Type} {s : Bus F}

/-- A frame of eight bytes comes while the line is quiet. -/
def EightByteMaster (s : Bus F) : BusOp → Prop
  | .frame bytes => LineQuiet s ∧ bytes.length = 8
  | _ => True

/-- The next frame starts at a multiple of eight. -/
def Aligned (s : Bus F) : Prop := s.task.node.srv ≠ none → s.rx.dmaPos % 8 = 0

instance (s : Bus F) (op : BusOp) : Decidable (EightByteMaster s op) :=
  match op with
  | .frame _ => inferInstanceAs (Decidable ((_ ∧ _ ∧ _) ∧ _))
  | .control _ | .modbus _ | .logger | .txComplete => isTrue trivial

/-- Aligned frames of eight bytes end inside the ring. -/
theorem paced_of_aligned (h : BusInv s) (halign : Aligned s) {op : BusOp}
    (hop : EightByteMaster s op) : Paced s op := by
  cases op with
  | frame bytes =>
      obtain ⟨hquiet, hlen⟩ := hop
      refine ⟨hquiet, fun hne => ?_⟩
      have hmod := halign hne
      have hlt := (h.ring hne).running.dmaPos_lt
      have hsize : uartRxDmaBufSize = 256 := rfl
      refine ⟨?_, ?_, ?_⟩ <;> omega
  | _ => trivial

/-- Frames of eight bytes keep the ring aligned. -/
theorem aligned_busFrame (h : BusInv s) (halign : Aligned s) {bytes : List UInt8}
    (hlen : bytes.length = 8) : Aligned (busFrame s bytes) := by
  intro hne
  cases hsrv : s.task.node.srv with
  | none =>
      have hsame : busFrame s bytes = s := by simp only [busFrame, hsrv]
      rw [hsame] at hne
      exact absurd hsrv hne
  | some srv =>
      have hsome : s.task.node.srv ≠ none := by
        rw [hsrv]
        exact Option.some_ne_none srv
      have hmod := halign hsome
      have hpos := (foldl_dmaStore_spec (h.ring hsome).running bytes).2.1
      -- the interrupt moves the read position only
      have hrx : (busFrame s bytes).rx.dmaPos = (bytes.foldl dmaStore s.rx).dmaPos := by
        simp only [busFrame, hsrv, usart1IrqHandler_ring]
        rfl
      rw [hrx, hpos, hlen]
      show (s.rx.dmaPos + 8) % 256 % 8 = 0
      omega

theorem aligned_busModbus {d : FlashDriver F} {nowMs : UInt32} {s' : Bus F} (h : BusInv s)
    (halign : Aligned s) (hstep : busModbus d nowMs s = .ok s') : Aligned s' := by
  unfold busModbus at hstep
  split at hstep
  · next hphase =>
      obtain ⟨log, -, hstep⟩ := checked_bind_eq_ok hstep
      cases hstep
      exact fun hne => halign fun hnone => hne (by
        show (modbusTaskStep d nowMs s.task).node.srv = none
        simp only [modbusTaskStep, hphase]
        exact (srv_handleModbusRequest d _ nowMs _).trans hnone)
  · cases hstep
    intro hne
    unfold busStartUart
    cases hsrv : s.task.node.srv with
    | none => rfl
    | some srv => exact halign (by rw [hsrv]; exact Option.some_ne_none srv)
  · next hhandle hidle =>
      cases hstep
      obtain ⟨srv, hsrv⟩ := h.ledger.started hidle
      exact fun _ => halign (by rw [hsrv]; exact Option.some_ne_none srv)

theorem aligned_busStep {lut : DewpointLut} {d : FlashDriver F} {op : BusOp} {s' : Bus F}
    (h : BusInv s) (halign : Aligned s) (hop : EightByteMaster s op)
    (hstep : busStep lut d s op = .ok s') : Aligned s' := by
  cases op with
  | frame bytes =>
      cases hstep
      exact aligned_busFrame h halign hop.2
  | control i =>
      simp only [busStep] at hstep
      split at hstep
      · obtain ⟨n, hn, hstep⟩ := checked_bind_eq_ok hstep
        cases hstep
        obtain ⟨n', hn', hfacts⟩ := controlTask_facts lut i h.ctrl
        rw [hn] at hn'
        cases hn'
        exact fun hne => halign (by rw [← hfacts.srv]; exact hne)
      · cases hstep
        exact halign
  | modbus nowMs => exact aligned_busModbus h halign hstep
  | logger =>
      rw [show busStep lut d s .logger = .ok s from by
        simp only [busStep, loggerTask_of_empty h.silent]; split <;> rfl] at hstep
      cases hstep
      exact halign
  | txComplete =>
      cases hstep
      intro hne
      refine halign fun hnone => hne ?_
      show (deliverEvent s.task .txComplete).node.srv = none
      simp only [deliverEvent, deliverUart, hnone, Option.map_none]

/-- A master with frames of eight bytes is a paced one. -/
theorem paced_of_eightByteMaster (lut : DewpointLut) {d : FlashDriver F} (hwrite : TakesWrites d)
    {ops : List BusOp} (h : BusInv s) (halign : Aligned s)
    (hops : StepsMeet (busStep lut d) EightByteMaster s ops) :
    StepsMeet (busStep lut d) Paced s ops := by
  refine stepsMeet_of_invariant (I := fun s => BusInv s ∧ Aligned s)
    (fun s op hI hop => paced_of_aligned hI.1 hI.2 hop) ?_ ⟨h, halign⟩ hops
  rintro s op s' ⟨hI, halign⟩ hop hs
  obtain ⟨t, ht, hfacts⟩ := busStep_facts lut hwrite hI op (paced_of_aligned hI halign hop)
  rw [hs] at ht
  cases ht
  exact ⟨hfacts.inv, aligned_busStep hI halign hop hs⟩

end EightBytes

/-! ## What a read returns -/

section Reads

/-- The device answers every event whose request it understands with one frame. -/
theorem length_answers_deviceStep (dev : RegisterDevice) (events : List DeviceEvent)
    (h : ∀ req ∈ events.filterMap DeviceEvent.request?, WellShaped req) :
    (answers deviceStep dev events).length =
      (events.filterMap DeviceEvent.request?).length := by
  induction events generalizing dev with
  | nil => rfl
  | cons event events ih =>
      cases event with
      | report telemetry => exact ih _ h
      | request nowMs req =>
          have hreq := h req List.mem_cons_self
          have hrest := ih (deviceStep dev (.request nowMs req)).1
            fun req' hmem => h req' (List.mem_cons_of_mem _ hmem)
          obtain ⟨query, hquery⟩ := exists_registerQuery hreq
          have hone : ((deviceStep dev (.request nowMs req)).2).length = 1 := by
            simp only [deviceStep, hquery, List.length_singleton]
          rw [answers_cons, List.length_append, hone, hrest]
          simp only [DeviceEvent.request?, List.filterMap_cons, List.length_cons]
          omega

/-- What a reader decodes from the answer to a read: the values of the device. -/
theorem readReply_deviceStep (dev : RegisterDevice) (nowMs : UInt32) {req : ModbusRequest}
    {start quantity : UInt16} (h : registerQuery req = some (.read start quantity)) :
    ∃ resp, (deviceStep dev (.request nowMs req)).2 = [resp] ∧
      readReply resp =
        if 1 ≤ quantity.toNat ∧ quantity.toNat ≤ 125 then
          dev.lookupRange nowMs start.toNat quantity.toNat
        else none := by
  obtain ⟨a, function, data⟩ := req
  have hfun : function = 0x03 := function_of_read h
  subst hfun
  refine ⟨replyFrame ⟨a, 0x03, data⟩ (dev.serve nowMs (.read start quantity)).2,
    by simp only [deviceStep, h], ?_⟩
  simp only [RegisterDevice.serve]
  split
  · next hrange =>
      cases hvals : dev.lookupRange nowMs start.toNat quantity.toNat with
      | none => exact readReply_exceptionResponse ⟨a, 0x03, data⟩ modbusExIllegalDataAddr
      | some vals =>
          have hlen := length_lookupRange hvals
          show readReply (a :: 0x03 :: UInt8.ofNat (vals.length * 2) ::
            (vals.flatMap putBe16 ++ _)) = _
          exact readReply_registers a (by omega) rfl _
  · exact readReply_exceptionResponse ⟨a, 0x03, data⟩ modbusExIllegalDataVal

/-- A range that was read holds the value of each of its registers. -/
theorem getElem?_lookupRange {dev : RegisterDevice} {nowMs : UInt32} {start n : Nat}
    {vals : List UInt16} (h : dev.lookupRange nowMs start n = some vals) {k : Nat} (hk : k < n)
    {addr : UInt16} (haddr : addr.toNat = start + k) : vals[k]? = dev.lookup nowMs addr := by
  induction n generalizing start vals k with
  | zero => exact absurd hk (Nat.not_lt_zero k)
  | succ n ih =>
      rw [RegisterDevice.lookupRange, List.range'_succ, List.mapM_cons] at h
      obtain ⟨val, hval, h⟩ := Option.bind_eq_some_iff.1 h
      obtain ⟨rest, hrest, h⟩ := Option.bind_eq_some_iff.1 h
      cases h
      cases k with
      | zero =>
          have hlt := addr.toNat_lt
          rw [Nat.add_zero] at haddr
          rw [if_pos (by omega), ← haddr, UInt16.ofNat_toNat] at hval
          exact hval.symm
      | succ k => exact ih hrest (Nat.lt_of_succ_lt_succ hk) (by omega)

theorem lookup_addr (dev : RegisterDevice) (nowMs : UInt32) (reg : CfgReg) :
    dev.lookup nowMs reg.addr = some (dev.cfg reg) := by
  rw [RegisterDevice.lookup, CfgReg.ofAddr_addr]

/-- What a master decodes from the answer to a read, when the device has started as `dev` and the
events `pre` have come before. -/
structure ReadAnswer (dev : RegisterDevice) (pre : List DeviceEvent) (nowMs : UInt32)
    (start quantity : UInt16) (resp : List UInt8) : Prop where
  /-- Values come exactly when 1 to 125 registers are asked for and all of them exist. -/
  served : (readReply resp).isSome = true ↔
    1 ≤ quantity.toNat ∧ quantity.toNat ≤ 125 ∧
      ∀ k < quantity.toNat, HasRegister (start.toNat + k)
  length : ∀ vals, readReply resp = some vals → vals.length = quantity.toNat
  /-- A configuration register has the value that was stored last. -/
  stored : ∀ vals, readReply resp = some vals → ∀ (reg : CfgReg) k, k < quantity.toNat →
    reg.addr.toNat = start.toNat + k → vals[k]? = some (lastStored reg (dev.cfg reg) pre)
  /-- A status register has the value that was reported last, and the uptime is that of the
  read. -/
  reported : ∀ vals, readReply resp = some vals → ∀ k, k < quantity.toNat → start.toNat + k < 8 →
    vals[k]? = (RegisterDevice.status ⟨lastReport dev.telemetry pre, dev.startedMs, dev.cfg⟩
      nowMs)[start.toNat + k]?

/-- The device answers from what was stored and reported last. -/
theorem readAnswer_deviceStep (dev : RegisterDevice) (pre : List DeviceEvent) (nowMs : UInt32)
    {req : ModbusRequest} {start quantity : UInt16}
    (h : registerQuery req = some (.read start quantity)) :
    ∃ resp, (deviceStep (after deviceStep dev pre) (.request nowMs req)).2 = [resp] ∧
      ReadAnswer dev pre nowMs start quantity resp := by
  rw [after_deviceStep]
  obtain ⟨resp, hresp, hread⟩ := readReply_deviceStep (dev.holding pre) nowMs h
  have hvalues : ∀ vals, readReply resp = some vals →
      (dev.holding pre).lookupRange nowMs start.toNat quantity.toNat = some vals := by
    intro vals hvals
    rw [hread] at hvals
    split at hvals
    · exact hvals
    · cases hvals
  refine ⟨resp, hresp, ?_, fun vals hvals => length_lookupRange (hvalues vals hvals),
    fun vals hvals reg k hk haddr => ?_, fun vals hvals k hk hstatus => ?_⟩
  · rw [hread, ← isSome_lookupRange_iff (dev.holding pre) nowMs]
    split
    · next hquantity => exact ⟨fun hsome => ⟨hquantity.1, hquantity.2, hsome⟩, fun hall => hall.2.2⟩
    · next hquantity =>
        exact iff_of_false Bool.false_ne_true fun hall => hquantity ⟨hall.1, hall.2.1⟩
  · rw [getElem?_lookupRange (hvalues vals hvals) hk haddr, lookup_addr]
    rfl
  · have haddr : (UInt16.ofNat (start.toNat + k)).toNat = start.toNat + k :=
      UInt16.toNat_ofNat_of_lt' (by show start.toNat + k < 65536; omega)
    have hlow : (UInt16.ofNat (start.toNat + k)).toNat < 256 := by omega
    rw [getElem?_lookupRange (hvalues vals hvals) hk haddr, lookup_status _ _ hlow, haddr]
    rfl

variable {F : Type} (lut : DewpointLut) {d : FlashDriver F}

/-- Along the paced runs each request to read registers is answered in its turn, by one frame. It
carries values exactly when 1 to 125 registers are asked for and all of them exist: for a
configuration register the one stored last before the read, or the one the node was booted with, for
a status register the one that the report had after the last control task or handled request, and
for the uptime that of the read. -/
theorem bus_reads_last_stored (hwrite : TakesWrites d) (plat : Platform) (flash : F)
    (cause : ResetCause) (bootMs : UInt32) (rx : UartRx) (log : Logger) {ops : List BusOp}
    (hops : StepsMeet (busStep lut d) Paced
      (busStart (mcuBoot d plat flash cause bootMs) rx log) ops) :
    let n := mcuBoot d plat flash cause bootMs
    ∃ s, run (busStep lut d) (busStart n rx log) ops = .ok s ∧
      ∀ pre nowMs req post start quantity,
        observed (busStep lut d) busEvents (busStart n rx log) ops =
          pre ++ .request nowMs req :: post →
        registerQuery req = some (.read start quantity) →
        ∃ sent resp rest, s.tx.taken = sent ++ resp :: rest ∧
          sent.length = (pre.filterMap DeviceEvent.request?).length ∧
          ReadAnswer (registerDevice n) pre nowMs start quantity resp := by
  intro n
  have hinv : BusInv (busStart n rx log) := busInv_start (ctrlInv_initExtended _ _ cause) rx log
  obtain ⟨s, hrun, hI, htaken, hhandled, -⟩ := busRun_facts lut hwrite hinv hops
  refine ⟨s, hrun, fun pre nowMs req post start quantity hevents hquery => ?_⟩
  -- every request handled has been accepted, so it has the shape the parser lets through
  have hshaped : ∀ req' ∈ pre.filterMap DeviceEvent.request?, WellShaped req' := by
    intro req' hmem
    refine hI.ledger.shaped req' ?_
    rw [← hI.ledger.ledger, hhandled, hevents, List.filterMap_append]
    exact List.mem_append_left _ (List.mem_append_right _ (List.mem_append_left _ hmem))
  obtain ⟨resp, hresp, hread⟩ := readAnswer_deviceStep (registerDevice n) pre nowMs hquery
  change s.tx.taken = answers deviceStep (registerDevice n) _ at htaken
  rw [hevents, answers_at, hresp] at htaken
  exact ⟨answers deviceStep (registerDevice n) pre, resp, _,
    htaken.trans (List.append_assoc _ _ _),
    length_answers_deviceStep (registerDevice n) pre hshaped, hread⟩

end Reads

/-- The first call of `modbus_task`, and for each frame the frame, the call that answers it and the
end of the transfer. -/
def requests (frames : List (List UInt8)) : List BusOp :=
  [.modbus 0, .modbus 0] ++ frames.flatMap fun bytes =>
    [.frame bytes, .modbus 1, .modbus 1, .modbus 1, .txComplete]

theorem takesWrites_stm32f1Flash : TakesWrites stm32f1Flash := fun _ _ _ => rfl

/-- The memory of the ring and of the logger after power-on. -/
def clearedRing : UartRx := ⟨Vector.replicate uartRxDmaBufSize 0, 0, 0⟩
def clearedLogger : Logger := ⟨Vector.replicate loggerBufferSize 0, 0, 0, 0, 0⟩

/-- The node after power-on. -/
def poweredBus : Bus Stm32f1Flash := busStart bootedNode clearedRing clearedLogger

/-- A write of 600 to the upper margin, and a read of the three configuration registers. -/
def marginWrite : List UInt8 := [0x01, 0x06, 0x01, 0x00, 0x02, 0x58, 0x88, 0xAC]
def configRead : List UInt8 := [0x01, 0x03, 0x01, 0x00, 0x00, 0x03, 0x04, 0x37]

theorem paced_requests :
    StepsMeet (busStep dewpointLnRhQ10 stm32f1Flash) Paced poweredBus
      (requests [marginWrite, configRead]) := by
  apply paced_of_eightByteMaster dewpointLnRhQ10 takesWrites_stm32f1Flash
    (busInv_start (ctrlInv_initExtended _ _ _) _ _) (fun hne => absurd rfl hne)
  decide +kernel

/-- The write is echoed, and the read returns the three values. -/
theorem bus_refines_register_device_writeRead :
    ∃ s, run (busStep dewpointLnRhQ10 stm32f1Flash) poweredBus
        (requests [marginWrite, configRead]) = .ok s ∧
      s.tx.taken = [marginWrite,
        [0x01, 0x03, 0x06, 0x02, 0x58, 0x02, 0xBC, 0x03, 0xE8, 0xC1, 0xB8]] := by
  obtain ⟨s, hrun, htaken, -⟩ :=
    bus_refines_register_device dewpointLnRhQ10 takesWrites_stm32f1Flash ⟨[], 0⟩ stm32f1Erased
      .powerOn 0 clearedRing clearedLogger paced_requests
  exact ⟨s, hrun, htaken.trans (by decide +kernel)⟩

/-- The read returns the written margin, and the other two registers as booted. -/
theorem bus_reads_last_stored_writeRead :
    ∃ s, run (busStep dewpointLnRhQ10 stm32f1Flash) poweredBus
        (requests [marginWrite, configRead]) = .ok s ∧
      ∃ sent resp rest vals, s.tx.taken = sent ++ resp :: rest ∧ sent.length = 1 ∧
        readReply resp = some vals ∧
        vals[0]? = some 600 ∧ vals[1]? = some 700 ∧ vals[2]? = some 1000 := by
  obtain ⟨s, hrun, hreads⟩ :=
    bus_reads_last_stored dewpointLnRhQ10 takesWrites_stm32f1Flash ⟨[], 0⟩ stm32f1Erased
      .powerOn 0 clearedRing clearedLogger paced_requests
  have hevents : observed (busStep dewpointLnRhQ10 stm32f1Flash) busEvents poweredBus
      (requests [marginWrite, configRead]) =
        [.request 1 ⟨1, 0x06, [0x01, 0x00, 0x02, 0x58]⟩, .report ⟨0, 0, 0, 0, 0, 0⟩] ++
          .request 1 ⟨1, 0x03, [0x01, 0x00, 0x00, 0x03]⟩ :: [.report ⟨0, 0, 0, 0, 0, 0⟩] := by
    decide +kernel
  obtain ⟨sent, resp, rest, htaken, hlen, hread⟩ := hreads _ 1 _ _ 0x100 3 hevents (by decide)
  have hexist : ∀ k < 3, HasRegister (0x100 + k) := by
    intro k hk
    obtain rfl | rfl | rfl : k = 0 ∨ k = 1 ∨ k = 2 := by omega
    · exact Or.inr ⟨.marginOn, rfl⟩
    · exact Or.inr ⟨.marginOff, rfl⟩
    · exact Or.inr ⟨.sampleMs, rfl⟩
  obtain ⟨vals, hvals⟩ :=
    Option.isSome_iff_exists.1 (hread.served.2 ⟨by decide, by decide, hexist⟩)
  refine ⟨s, hrun, sent, resp, rest, vals, htaken, hlen, hvals, ?_, ?_, ?_⟩
  · exact (hread.stored vals hvals .marginOn 0 (by decide) rfl).trans (by decide +kernel)
  · exact (hread.stored vals hvals .marginOff 1 (by decide) rfl).trans (by decide +kernel)
  · exact (hread.stored vals hvals .sampleMs 2 (by decide) rfl).trans (by decide +kernel)

end ClimateNode.Application
