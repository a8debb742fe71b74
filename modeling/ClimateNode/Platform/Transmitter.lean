import ClimateNode.Machine.Observation
import ClimateNode.Platform.Uart

/-!
# The transmitter, register by register

The transmit half of `bsp/stm32f1/uart.c` above its registers: DMA channel 4 fetches the block from
memory into the data register, and the USART moves it to the shift register and from there to the
line. The driver's part is `uart1_tx_dma_async` and `DMA1_Channel4_IRQHandler`, which waits for the
last stop bit between its two halves; while it waits the program stands still. The hardware takes
its three steps at any time. In RS-485 mode the driver turns the transceiver round by a write
through one of two pointers into the port; which of the two it wrote through last is kept, not what
the port makes of it.

The channel of `UartTx` is what this one is for. Provided that the caller keeps the block until it
is sent and that the DMA refills the data register in time, the bytes of the accepted blocks leave
in order, each between the two writes of its block (`transmitter_refines`). Without these two
provisos the transfer still ends: each step that does anything brings the end nearer, and until then
there is one that does something (`transmitter_finishes`). Only a block of no bytes would never end
(`empty_block_blocks`); the callers do not send one.
-/

set_option autoImplicit false

namespace ClimateNode.Platforms

open ClimateNode.Machine ClimateNode.Service

/-! ## The registers -/

/-- The two pointers into the port of the direction pin: `g_gpio_bsrr_ptr`, through which the driver
asks for transmission, and `g_gpio_brr_ptr`, through which it asks for reception. -/
inductive DirectionPtr where
  | gpioBsrr
  | gpioBrr
  deriving DecidableEq, Repr

/-- The memory, the driver's mode, the pointer it wrote the pin's mask through last, channel 4 with
its flag in `DMA1_ISR`, the transmitter of the USART, whether the interrupt handler waits, the bytes
that have left with the pointer written through last before, and the events passed to the
callback. -/
structure TxRegs where
  memory : Nat → UInt8
  rs485Mode : Bool
  direction : Option DirectionPtr
  ccr4En : Bool
  /-- Where the channel fetches next; it starts at `DMA1_CMAR4`. -/
  cmar4 : Nat
  cndtr4 : Nat
  tcif4 : Bool
  dr : Option UInt8
  shift : Option UInt8
  /-- `USART1_SR`, bit 6. -/
  tc : Bool
  waiting : Bool
  line : List (UInt8 × Option DirectionPtr)
  events : List UartEvent

/-- The bytes at an address. -/
def block (memory : Nat → UInt8) (addr len : Nat) : List UInt8 :=
  (List.range' addr len).map memory

/-- `uart1_tx_dma_async`. -/
def txDmaAsync (r : TxRegs) (data len : Nat) : Bool × TxRegs :=
  if r.ccr4En then (false, r)
  else
    (true, { r with
      direction := if r.rs485Mode then some .gpioBsrr else r.direction
      tc := false
      cmar4 := data
      cndtr4 := len
      ccr4En := true })

/-- `DMA1_Channel4_IRQHandler` up to its wait. -/
def channel4Irq (r : TxRegs) : TxRegs :=
  if r.tcif4 then { r with tcif4 := false, ccr4En := false, waiting := true } else r

/-- The wait of the handler, and the rest of it once the flag is set. -/
def channel4Wait (r : TxRegs) : TxRegs :=
  if r.waiting && r.tc then
    { r with
      direction := if r.rs485Mode then some .gpioBrr else r.direction
      waiting := false
      events := r.events ++ [.txComplete] }
  else r

/-- The channel fetches a byte into the empty data register. The last one sets the flag. -/
def dmaFetch (r : TxRegs) : TxRegs :=
  if r.ccr4En && r.cndtr4 != 0 && r.dr.isNone then
    { r with
      dr := some (r.memory r.cmar4)
      cmar4 := r.cmar4 + 1
      cndtr4 := r.cndtr4 - 1
      tcif4 := r.tcif4 || r.cndtr4 == 1 }
  else r

/-- The byte in the data register moves to the empty shift register. -/
def loadShift (r : TxRegs) : TxRegs :=
  match r.dr, r.shift with
  | some byte, none => { r with dr := none, shift := some byte }
  | _, _ => r

/-- The stop bit of the byte in the shift register ends. With no byte behind it the transmission is
complete. -/
def shiftOut (r : TxRegs) : TxRegs :=
  match r.shift with
  | some byte =>
      { r with
        shift := none
        line := r.line ++ [(byte, r.direction)]
        tc := r.tc || r.dr.isNone }
  | none => r

/-- What the program, the interrupt and the hardware do. -/
inductive TxOp where
  | transmit (data len : Nat)
  | store (addr : Nat) (byte : UInt8)
  | irq
  | wait
  | fetch
  | load
  | shiftOut

/-- One step. While the handler waits the program stands still. -/
def txStep (r : TxRegs) : TxOp → Checked TxRegs
  | .transmit data len => .ok (if r.waiting then r else (txDmaAsync r data len).2)
  | .store addr byte =>
      .ok (if r.waiting then r else { r with memory := Function.update r.memory addr byte })
  | .irq => .ok (if r.waiting then r else channel4Irq r)
  | .wait => .ok (channel4Wait r)
  | .fetch => .ok (dmaFetch r)
  | .load => .ok (loadShift r)
  | .shiftOut => .ok (shiftOut r)

/-- The transmitter after `uart1_async_init` and, for the RS-485 mode, `uart1_set_rs485_pin`. -/
def txIdle (memory : Nat → UInt8) (rs485Mode tc : Bool) : TxRegs :=
  ⟨memory, rs485Mode, if rs485Mode then some .gpioBrr else none, false, 0, 0, false, none, none, tc,
    false, [], []⟩

/-! ## The channel -/

/-- A call of the driver, or a completed transfer. -/
inductive TxCall where
  | start (data : List UInt8)
  | complete

/-- The channel takes a call. -/
def uartTxStep (tx : UartTx) : TxCall → UartTx × List UartEvent
  | .start data => ((uart1TxDmaAsync tx data).2, [])
  | .complete => ((dma1Channel4IrqHandler tx).2, (dma1Channel4IrqHandler tx).1)

/-- What a step is for the channel. -/
def txCalls (r : TxRegs) (op : TxOp) (_ : TxRegs) : List TxCall :=
  match op with
  | .transmit data len => if r.waiting then [] else [.start (block r.memory data len)]
  | .wait => if r.waiting && r.tc then [.complete] else []
  | .store _ _ | .irq | .fetch | .load | .shiftOut => []

/-- No empty block is sent. -/
def NoEmptyBlock : TxOp → Prop
  | .transmit _ len => 0 < len
  | .store _ _ | .irq | .wait | .fetch | .load | .shiftOut => True

/-- No empty block is sent, the program leaves a block alone until it is fetched, and the DMA has
fetched the next byte when one has left. -/
def TxUse (r : TxRegs) : TxOp → Prop
  | .transmit _ len => 0 < len
  | .store addr _ => ¬ (r.cmar4 ≤ addr ∧ addr < r.cmar4 + r.cndtr4)
  | .shiftOut => r.dr ≠ none ∨ r.cndtr4 = 0
  | .irq | .wait | .fetch | .load => True

/-- The bytes that have been accepted and have not left. -/
def inFlight (r : TxRegs) : List UInt8 :=
  r.shift.toList ++ (r.dr.toList ++ block r.memory r.cmar4 r.cndtr4)

/-- How the channel, its flag and the handler stand to each other, whatever the bytes are. -/
structure TxControl (r : TxRegs) : Prop where
  apart : r.waiting = true → r.ccr4En = false
  flag : r.tcif4 = true ↔ r.ccr4En = true ∧ r.cndtr4 = 0
  fetched : r.ccr4En = false → r.cndtr4 = 0
  complete : (r.ccr4En || r.waiting) = true → r.shift = none → r.dr = none → r.cndtr4 = 0 →
    r.tc = true

/-- The registers beside the channel. -/
structure TxRefines (r : TxRegs) (tx : UartTx) : Prop where
  control : TxControl r
  busy : tx.enabled = (r.ccr4En || r.waiting)
  bytes : r.line.map Prod.fst ++ inFlight r = tx.taken.flatten
  driven : r.rs485Mode = true → ∀ x ∈ r.line, x.2 = some .gpioBsrr
  direction : r.rs485Mode = true →
    r.direction = some (if tx.enabled then .gpioBsrr else .gpioBrr)
  drained : r.tc = true ∨ tx.enabled = false → inFlight r = []

/-! ## One step -/

section Control

variable {r : TxRegs}

theorem txControl_idle (memory : Nat → UInt8) (rs485Mode tc : Bool) :
    TxControl (txIdle memory rs485Mode tc) where
  apart := by rintro ⟨⟩
  flag := by
    constructor
    · rintro ⟨⟩
    · rintro ⟨⟨⟩, -⟩
  fetched := fun _ => rfl
  complete := by rintro ⟨⟩

/-- A block is accepted by a channel that is off, and its flag with it. -/
theorem TxControl.transmit (h : TxControl r) (hwaiting : r.waiting = false) (data : Nat) {len : Nat}
    (hlen : 0 < len) : TxControl (txDmaAsync r data len).2 := by
  rw [txDmaAsync]
  split
  · exact h
  · next hen =>
      have hflag : ¬ r.tcif4 = true := fun hf => hen (h.flag.1 hf).1
      constructor
      · intro hw
        rw [hwaiting] at hw
        cases hw
      · constructor
        · exact fun hf => absurd hf hflag
        · rintro ⟨-, hzero⟩
          exact absurd hzero (Nat.ne_of_gt hlen)
      · rintro ⟨⟩
      · exact fun _ _ _ hzero => absurd hzero (Nat.ne_of_gt hlen)

theorem TxControl.irq (h : TxControl r) : TxControl (channel4Irq r) := by
  rw [channel4Irq]
  split
  · next hflag =>
      obtain ⟨hen, hzero⟩ := h.flag.1 hflag
      constructor
      · exact fun _ => rfl
      · constructor
        · rintro ⟨⟩
        · rintro ⟨⟨⟩, -⟩
      · exact fun _ => hzero
      · exact fun _ => h.complete (by rw [hen]; rfl)
  · exact h

theorem TxControl.wait (h : TxControl r) : TxControl (channel4Wait r) := by
  rw [channel4Wait]
  split
  · next hwait =>
      have hen := h.apart (Bool.and_eq_true_iff.1 hwait).1
      constructor
      · rintro ⟨⟩
      · exact h.flag
      · exact h.fetched
      · intro hbusy
        have hbusy : (r.ccr4En || false) = true := hbusy
        rw [hen] at hbusy
        cases hbusy
  · exact h

/-- The flag is set with the last byte. -/
theorem TxControl.fetch (h : TxControl r) : TxControl (dmaFetch r) := by
  rw [dmaFetch]
  split
  · next hcond =>
      obtain ⟨hleft, -⟩ := Bool.and_eq_true_iff.1 hcond
      obtain ⟨hen, hne⟩ := Bool.and_eq_true_iff.1 hleft
      have hne := bne_iff_ne.1 hne
      have hnotDone : ¬ r.tcif4 = true := fun hf => hne (h.flag.1 hf).2
      constructor
      · exact h.apart
      · show (r.tcif4 || r.cndtr4 == 1) = true ↔ r.ccr4En = true ∧ r.cndtr4 - 1 = 0
        rw [Bool.eq_false_iff.2 hnotDone, Bool.false_or, beq_iff_eq]
        constructor
        · exact fun hone => ⟨hen, by omega⟩
        · exact fun hzero => by omega
      · intro hoff
        rw [hen] at hoff
        cases hoff
      · rintro - - ⟨⟩
  · exact h

theorem TxControl.load (h : TxControl r) : TxControl (loadShift r) := by
  unfold loadShift
  split
  · refine ⟨h.apart, h.flag, h.fetched, ?_⟩
    rintro - ⟨⟩
  · exact h

/-- With the last byte the transmission is complete. -/
theorem TxControl.shiftOut (h : TxControl r) : TxControl (shiftOut r) := by
  unfold ClimateNode.Platforms.shiftOut
  split
  · refine ⟨h.apart, h.flag, h.fetched, fun _ _ hdr _ => ?_⟩
    have hdr : r.dr = none := hdr
    show (r.tc || r.dr.isNone) = true
    rw [hdr, Option.isNone_none, Bool.or_true]
  · exact h

/-- A step keeps the control in order as long as no block is empty. -/
theorem txStep_control {op : TxOp} (h : TxControl r) (hop : NoEmptyBlock op) :
    ∃ r', txStep r op = .ok r' ∧ TxControl r' := by
  cases op with
  | transmit data len =>
      refine ⟨_, rfl, ?_⟩
      split
      · exact h
      · next hwaiting => exact h.transmit (Bool.not_eq_true _ ▸ hwaiting) data hop
  | store addr byte =>
      refine ⟨_, rfl, ?_⟩
      split
      · exact h
      · exact ⟨h.apart, h.flag, h.fetched, h.complete⟩
  | irq =>
      refine ⟨_, rfl, ?_⟩
      split
      · exact h
      · exact h.irq
  | wait => exact ⟨_, rfl, h.wait⟩
  | fetch => exact ⟨_, rfl, h.fetch⟩
  | load => exact ⟨_, rfl, h.load⟩
  | shiftOut => exact ⟨_, rfl, h.shiftOut⟩

end Control

section Steps

variable {r : TxRegs} {tx : UartTx}

theorem block_succ (memory : Nat → UInt8) (addr n : Nat) :
    block memory addr (n + 1) = memory addr :: block memory (addr + 1) n := rfl

/-- Nothing in flight: the registers are empty and the counter is at its end. -/
theorem inFlight_eq_nil_iff :
    inFlight r = [] ↔ r.shift = none ∧ r.dr = none ∧ r.cndtr4 = 0 := by
  rw [inFlight, List.append_eq_nil_iff, List.append_eq_nil_iff, Option.toList_eq_nil_iff,
    Option.toList_eq_nil_iff, block, List.map_eq_nil_iff, List.range'_eq_nil_iff]

theorem txRefines_idle (memory : Nat → UInt8) (rs485Mode tc : Bool) :
    TxRefines (txIdle memory rs485Mode tc) ⟨false, []⟩ where
  control := txControl_idle memory rs485Mode tc
  busy := rfl
  bytes := rfl
  driven := fun _ _ hx => absurd hx List.not_mem_nil
  direction := fun hmode => if_pos hmode
  drained := fun _ => rfl

/-- An accepted block is in flight as a whole. -/
theorem TxRefines.transmit (h : TxRefines r tx) (hwaiting : r.waiting = false) (data : Nat)
    {len : Nat} (hlen : 0 < len) :
    TxRefines (txDmaAsync r data len).2
      (uart1TxDmaAsync tx (block r.memory data len)).2 := by
  have hcontrol := h.control.transmit hwaiting data hlen
  have hbusy := h.busy
  rw [hwaiting, Bool.or_false] at hbusy
  cases hen : r.ccr4En with
  | true =>
      rw [hen] at hbusy
      rw [txDmaAsync, if_pos hen, uart1TxDmaAsync, if_pos hbusy]
      exact h
  | false =>
      rw [hen] at hbusy
      have hempty := h.drained (Or.inr hbusy)
      have hbytes := h.bytes
      obtain ⟨hshift, hdr, -⟩ := inFlight_eq_nil_iff.1 hempty
      have hen' : ¬ r.ccr4En = true := by
        rw [hen]
        exact Bool.false_ne_true
      have hbusy' : ¬ tx.enabled = true := by
        rw [hbusy]
        exact Bool.false_ne_true
      rw [hempty, List.append_nil] at hbytes
      rw [txDmaAsync, if_neg hen'] at hcontrol ⊢
      rw [uart1TxDmaAsync, if_neg hbusy']
      constructor
      · exact hcontrol
      · exact (Bool.true_or _).symm
      · show r.line.map Prod.fst ++ (r.shift.toList ++ (r.dr.toList ++ block r.memory data len)) =
          (tx.taken ++ [block r.memory data len]).flatten
        rw [hbytes, hshift, hdr, List.flatten_append, List.flatten_singleton]
        rfl
      · exact h.driven
      · exact fun hmode => if_pos hmode
      · rintro (⟨⟨⟩⟩ | ⟨⟨⟩⟩)

/-- Memory outside the block may be written. -/
theorem TxRefines.store (h : TxRefines r tx) {addr : Nat} (byte : UInt8)
    (haddr : ¬ (r.cmar4 ≤ addr ∧ addr < r.cmar4 + r.cndtr4)) :
    TxRefines { r with memory := Function.update r.memory addr byte } tx := by
  have hblock : block (Function.update r.memory addr byte) r.cmar4 r.cndtr4 =
      block r.memory r.cmar4 r.cndtr4 := by
    refine List.map_congr_left fun k hk => Function.update_of_ne ?_ _ _
    rintro rfl
    exact haddr ⟨(List.mem_range'_1.1 hk).1, (List.mem_range'_1.1 hk).2⟩
  have hflight : inFlight { r with memory := Function.update r.memory addr byte } = inFlight r := by
    simp only [inFlight, hblock]
  constructor
  · exact ⟨h.control.apart, h.control.flag, h.control.fetched, h.control.complete⟩
  · exact h.busy
  · rw [hflight]
    exact h.bytes
  · exact h.driven
  · exact h.direction
  · rw [hflight]
    exact h.drained

/-- The interrupt ends the transfer of the channel; the last bytes may still be on their way. -/
theorem TxRefines.irq (h : TxRefines r tx) : TxRefines (channel4Irq r) tx := by
  have hcontrol := h.control.irq
  rw [channel4Irq] at hcontrol ⊢
  split
  · next hflag =>
      rw [if_pos hflag] at hcontrol
      have hbusy := h.busy
      rw [(h.control.flag.1 hflag).1, Bool.true_or] at hbusy
      constructor
      · exact hcontrol
      · rw [hbusy]
        rfl
      · exact h.bytes
      · exact h.driven
      · exact h.direction
      · exact h.drained
  · exact h

/-- The end of the wait frees the channel. -/
theorem TxRefines.wait (h : TxRefines r tx) (hwait : (r.waiting && r.tc) = true) :
    TxRefines (channel4Wait r) (dma1Channel4IrqHandler tx).2 := by
  obtain ⟨hwaiting, htc⟩ := Bool.and_eq_true_iff.1 hwait
  have hcontrol := h.control.wait
  have hempty := h.drained (Or.inl htc)
  rw [channel4Wait, if_pos hwait] at hcontrol ⊢
  constructor
  · exact hcontrol
  · show false = (r.ccr4En || false)
    rw [h.control.apart hwaiting]
    rfl
  · exact h.bytes
  · exact h.driven
  · exact fun hmode => if_pos hmode
  · exact fun _ => hempty

/-- A fetched byte stays in flight. -/
theorem TxRefines.fetch (h : TxRefines r tx) : TxRefines (dmaFetch r) tx := by
  have hcontrol := h.control.fetch
  rw [dmaFetch] at hcontrol ⊢
  split
  · next hcond =>
      rw [if_pos hcond] at hcontrol
      obtain ⟨hleft, hdr⟩ := Bool.and_eq_true_iff.1 hcond
      obtain ⟨hen, hne⟩ := Bool.and_eq_true_iff.1 hleft
      have hdr' : r.dr = none := Option.isNone_iff_eq_none.1 hdr
      obtain ⟨n, hn⟩ : ∃ n, r.cndtr4 = n + 1 :=
        Nat.exists_eq_succ_of_ne_zero (bne_iff_ne.1 hne)
      have hbusy := h.busy
      rw [hen, Bool.true_or] at hbusy
      -- the byte moves from the memory to the data register
      have hflight : r.shift.toList ++ ([r.memory r.cmar4] ++
          block r.memory (r.cmar4 + 1) (r.cndtr4 - 1)) = inFlight r := by
        rw [inFlight, hdr', hn, block_succ]
        rfl
      constructor
      · exact hcontrol
      · exact h.busy
      · show r.line.map Prod.fst ++ _ = _
        rw [← h.bytes, ← hflight]
        rfl
      · exact h.driven
      · exact h.direction
      · rintro (htc | hidle)
        · have hempty := inFlight_eq_nil_iff.1 (h.drained (Or.inl htc))
          rw [hempty.2.2] at hn
          cases hn
        · rw [hbusy] at hidle
          cases hidle
  · exact h

/-- A byte in the shift register stays in flight. -/
theorem TxRefines.load (h : TxRefines r tx) : TxRefines (loadShift r) tx := by
  have hcontrol := h.control.load
  unfold loadShift at hcontrol ⊢
  split
  · next byte hdr hshift =>
      simp only [hdr, hshift] at hcontrol
      have hflight : [byte] ++ ([] ++ block r.memory r.cmar4 r.cndtr4) = inFlight r := by
        rw [inFlight, hdr, hshift]
        rfl
      constructor
      · exact hcontrol
      · exact h.busy
      · rw [← h.bytes, ← hflight]
        rfl
      · exact h.driven
      · exact h.direction
      · intro hdone
        have hempty := inFlight_eq_nil_iff.1 (h.drained hdone)
        rw [hempty.2.1] at hdr
        cases hdr
  · exact h

/-- A byte leaves with the transceiver turned to transmission. The last one completes the
transmission. -/
theorem TxRefines.shiftOut (h : TxRefines r tx) (huse : r.dr ≠ none ∨ r.cndtr4 = 0) :
    TxRefines (shiftOut r) tx := by
  have hcontrol := h.control.shiftOut
  unfold ClimateNode.Platforms.shiftOut at hcontrol ⊢
  split
  · next byte hshift =>
      simp only [hshift] at hcontrol
      have hflight : inFlight r = byte :: (r.dr.toList ++ block r.memory r.cmar4 r.cndtr4) := by
        rw [inFlight, hshift]
        rfl
      have hfull : inFlight r ≠ [] := by
        rw [hflight]
        exact List.cons_ne_nil _ _
      have hbusy : tx.enabled = true := by
        by_contra hfree
        exact hfull (h.drained (Or.inr (Bool.not_eq_true _ ▸ hfree)))
      have htc : r.tc = false := by
        by_contra hdone
        exact hfull (h.drained (Or.inl (Bool.not_eq_false _ ▸ hdone)))
      constructor
      · exact hcontrol
      · exact h.busy
      · show (r.line ++ [(byte, r.direction)]).map Prod.fst ++
          ([] ++ (r.dr.toList ++ block r.memory r.cmar4 r.cndtr4)) = _
        rw [← h.bytes, hflight, List.map_append, List.append_assoc]
        rfl
      · intro hmode x hx
        rcases List.mem_append.1 hx with hx | hx
        · exact h.driven hmode x hx
        · rw [List.mem_singleton.1 hx, h.direction hmode, if_pos hbusy]
      · exact h.direction
      · rintro (hdone | hidle)
        · rw [htc, Bool.false_or] at hdone
          have hdr : r.dr = none := Option.isNone_iff_eq_none.1 hdone
          exact inFlight_eq_nil_iff.2 ⟨rfl, hdr, huse.resolve_left fun hne => hne hdr⟩
        · rw [hbusy] at hidle
          cases hidle
  · exact h

/-- A step is the channel taking the calls of the step, with the same events. -/
theorem txStep_refines {op : TxOp} (h : TxRefines r tx) (huse : TxUse r op) :
    ∃ r', txStep r op = .ok r' ∧ TxRefines r' (after uartTxStep tx (txCalls r op r')) ∧
      r'.events = r.events ++ answers uartTxStep tx (txCalls r op r') := by
  cases op with
  | transmit data len =>
      by_cases hwaiting : r.waiting = true
      · have hcalls : txCalls r (.transmit data len) r = [] := if_pos hwaiting
        refine ⟨r, congrArg Except.ok (if_pos hwaiting), ?_⟩
        rw [hcalls]
        exact ⟨h, (List.append_nil _).symm⟩
      · have hcalls : txCalls r (.transmit data len) (txDmaAsync r data len).2 =
            [.start (block r.memory data len)] := if_neg hwaiting
        refine ⟨(txDmaAsync r data len).2, congrArg Except.ok (if_neg hwaiting), ?_⟩
        rw [hcalls]
        refine ⟨h.transmit (Bool.not_eq_true _ ▸ hwaiting) data huse, ?_⟩
        rw [txDmaAsync]
        split
        · exact (List.append_nil _).symm
        · exact (List.append_nil _).symm
  | store addr byte =>
      by_cases hwaiting : r.waiting = true
      · exact ⟨r, congrArg Except.ok (if_pos hwaiting), h, (List.append_nil _).symm⟩
      · exact ⟨{ r with memory := Function.update r.memory addr byte },
          congrArg Except.ok (if_neg hwaiting), h.store byte huse, (List.append_nil _).symm⟩
  | irq =>
      by_cases hwaiting : r.waiting = true
      · exact ⟨r, congrArg Except.ok (if_pos hwaiting), h, (List.append_nil _).symm⟩
      · refine ⟨channel4Irq r, congrArg Except.ok (if_neg hwaiting), h.irq, ?_⟩
        show (channel4Irq r).events = r.events ++ []
        rw [channel4Irq, List.append_nil]
        split
        · rfl
        · rfl
  | wait =>
      refine ⟨channel4Wait r, rfl, ?_⟩
      by_cases hwait : (r.waiting && r.tc) = true
      · have hcalls : txCalls r .wait (channel4Wait r) = [.complete] := if_pos hwait
        rw [hcalls]
        refine ⟨h.wait hwait, ?_⟩
        rw [channel4Wait, if_pos hwait]
        rfl
      · have hcalls : txCalls r .wait (channel4Wait r) = [] := if_neg hwait
        rw [hcalls, channel4Wait, if_neg hwait]
        exact ⟨h, (List.append_nil _).symm⟩
  | fetch =>
      refine ⟨_, rfl, h.fetch, ?_⟩
      show (dmaFetch r).events = r.events ++ []
      rw [dmaFetch, List.append_nil]
      split
      · rfl
      · rfl
  | load =>
      refine ⟨_, rfl, h.load, ?_⟩
      show (loadShift r).events = r.events ++ []
      rw [loadShift, List.append_nil]
      split
      · rfl
      · rfl
  | shiftOut =>
      refine ⟨_, rfl, h.shiftOut huse, ?_⟩
      show (shiftOut r).events = r.events ++ []
      rw [ClimateNode.Platforms.shiftOut, List.append_nil]
      split
      · rfl
      · rfl

end Steps

/-! ## Runs -/

section Runs

variable {memory : Nat → UInt8} {rs485Mode tc : Bool} {ops : List TxOp}

/-- What a run reaches refines the channel after the calls of the run. -/
theorem txRun_refines (hops : StepsMeet txStep TxUse (txIdle memory rs485Mode tc) ops) :
    ∃ r, run txStep (txIdle memory rs485Mode tc) ops = .ok r ∧
      TxRefines r (after uartTxStep ⟨false, []⟩
        (observed txStep txCalls (txIdle memory rs485Mode tc) ops)) ∧
      r.events = answers uartTxStep ⟨false, []⟩
        (observed txStep txCalls (txIdle memory rs485Mode tc) ops) :=
  run_answers (f := fun r : TxRegs => r.events) (R := TxRefines)
    (fun _ _ _ hR hC => txStep_refines hR hC) (txRefines_idle memory rs485Mode tc) hops

/-- No step changes the mode. -/
theorem rs485Mode_txStep {r r' : TxRegs} {op : TxOp} (hstep : txStep r op = .ok r') :
    r'.rs485Mode = r.rs485Mode := by
  cases op with
  | transmit data len =>
      cases hstep
      unfold txDmaAsync
      split_ifs <;> rfl
  | store addr byte =>
      cases hstep
      split_ifs <;> rfl
  | irq =>
      cases hstep
      unfold channel4Irq
      split_ifs <;> rfl
  | wait =>
      cases hstep
      unfold channel4Wait
      split_ifs <;> rfl
  | fetch =>
      cases hstep
      unfold dmaFetch
      split_ifs <;> rfl
  | load =>
      cases hstep
      unfold loadShift
      split <;> rfl
  | shiftOut =>
      cases hstep
      unfold ClimateNode.Platforms.shiftOut
      split <;> rfl

/-- In every order of calls, interrupts and hardware steps: the callback hears the channel's events,
and the bytes of the accepted blocks leave in order. In RS-485 mode each leaves with the transceiver
turned to transmission, which it is as long as the channel is not free. When it is free, all of them
have left. -/
theorem transmitter_refines (hops : StepsMeet txStep TxUse (txIdle memory rs485Mode tc) ops) :
    let calls := observed txStep txCalls (txIdle memory rs485Mode tc) ops
    let tx := after uartTxStep ⟨false, []⟩ calls
    ∃ r, run txStep (txIdle memory rs485Mode tc) ops = .ok r ∧
      r.events = answers uartTxStep ⟨false, []⟩ calls ∧
      r.line.map Prod.fst ++ inFlight r = tx.taken.flatten ∧
      (rs485Mode = true → (∀ x ∈ r.line, x.2 = some .gpioBsrr) ∧
        r.direction = some (if tx.enabled then .gpioBsrr else .gpioBrr)) ∧
      (tx.enabled = false → r.line.map Prod.fst = tx.taken.flatten) := by
  intro calls tx
  obtain ⟨r, hrun, h, hevents⟩ := txRun_refines hops
  have hsame : r.rs485Mode = rs485Mode :=
    run_keeps (P := fun r => r.rs485Mode = rs485Mode) (A := fun _ => True)
      (fun _ _ _ _ hP hstep => (rs485Mode_txStep hstep).trans hP) (fun _ _ => trivial) rfl hrun
  refine ⟨r, hrun, hevents, h.bytes, fun hmode => ?_, fun hfree => ?_⟩
  · exact ⟨h.driven (hsame.trans hmode), h.direction (hsame.trans hmode)⟩
  · have hbytes := h.bytes
    rw [h.drained (Or.inr hfree), List.append_nil] at hbytes
    exact hbytes

end Runs

/-- A block of one byte, from the call to the end of the wait. -/
def oneByte : List TxOp := [.transmit 0 1, .fetch, .load, .irq, .shiftOut, .wait]

theorem txUse_oneByte :
    StepsMeet txStep TxUse (txIdle (fun _ => 0x41) true true) oneByte :=
  stepsMeet_cons_ok (show 0 < 1 by decide) rfl <| stepsMeet_cons_ok trivial rfl <|
    stepsMeet_cons_ok trivial rfl <| stepsMeet_cons_ok trivial rfl <|
      stepsMeet_cons_ok (Or.inr rfl) rfl <| stepsMeet_cons_ok trivial rfl trivial

/-- The byte has left between the two writes, and the callback has heard of it. -/
theorem transmitter_refines_oneByte :
    ∃ r, run txStep (txIdle (fun _ => 0x41) true true) oneByte = .ok r ∧
      r.events = [.txComplete] ∧ r.line.map Prod.fst = [0x41] ∧
      (∀ x ∈ r.line, x.2 = some .gpioBsrr) ∧ r.direction = some .gpioBrr := by
  obtain ⟨r, hrun, hevents, -, hdirection, hline⟩ := transmitter_refines txUse_oneByte
  exact ⟨r, hrun, hevents, hline rfl, hdirection rfl⟩

/-! ## The end of a transfer -/

section Progress

variable {r : TxRegs}

/-- What is left to do for a transfer: three steps for a byte in memory, two for one in the data
register, one for one in the shift register, and the two halves of the interrupt handler. -/
def stepsLeft (r : TxRegs) : Nat :=
  3 * r.cndtr4 + 2 * r.dr.toList.length + r.shift.toList.length +
    if r.ccr4En then 2 else if r.waiting then 1 else 0

/-- The steps of the interrupt handler and of the hardware. -/
def IsTransfer : TxOp → Prop
  | .irq | .wait | .fetch | .load | .shiftOut => True
  | .transmit _ _ | .store _ _ => False

theorem IsTransfer.noEmptyBlock {op : TxOp} (h : IsTransfer op) : NoEmptyBlock op := by
  cases op with
  | transmit data len => exact h.elim
  | _ => trivial

/-- A step that does something. -/
def Moves (r : TxRegs) (op : TxOp) : Prop := txStep r op ≠ .ok r

/-- A step of the transfer that does something brings the end nearer by one. -/
theorem stepsLeft_of_moves (h : TxControl r) {op : TxOp} (hop : IsTransfer op)
    (hmoves : Moves r op) {r' : TxRegs} (hstep : txStep r op = .ok r') :
    stepsLeft r' + 1 = stepsLeft r := by
  have hne : r' ≠ r := by
    rintro rfl
    exact hmoves hstep
  cases op with
  | transmit data len => exact hop.elim
  | store addr byte => exact hop.elim
  | irq =>
      cases hstep
      split at hne
      · exact absurd rfl hne
      · next hwaiting =>
          rw [if_neg hwaiting]
          rw [channel4Irq] at hne ⊢
          split at hne
          · next hflag =>
              rw [if_pos hflag]
              simp only [stepsLeft, (h.flag.1 hflag).1, if_true, Bool.false_eq_true, if_false]
          · exact absurd rfl hne
  | wait =>
      cases hstep
      rw [channel4Wait] at hne ⊢
      split at hne
      · next hwait =>
          obtain ⟨hwaiting, -⟩ := Bool.and_eq_true_iff.1 hwait
          rw [if_pos hwait]
          simp only [stepsLeft, h.apart hwaiting, hwaiting, if_true, Bool.false_eq_true, if_false]
      · exact absurd rfl hne
  | fetch =>
      cases hstep
      rw [dmaFetch] at hne ⊢
      split at hne
      · next hcond =>
          obtain ⟨hleft, hdr⟩ := Bool.and_eq_true_iff.1 hcond
          obtain ⟨-, hpos⟩ := Bool.and_eq_true_iff.1 hleft
          have hdr' : r.dr = none := Option.isNone_iff_eq_none.1 hdr
          have hpos' := Nat.pos_of_ne_zero (bne_iff_ne.1 hpos)
          rw [if_pos hcond]
          simp only [stepsLeft, hdr', Option.toList_some, Option.toList_none, List.length_singleton,
            List.length_nil]
          omega
      · exact absurd rfl hne
  | load =>
      cases hstep
      unfold loadShift at hne ⊢
      split at hne
      · next byte hdr hshift =>
          simp only [stepsLeft, hdr, hshift, Option.toList_some, Option.toList_none,
            List.length_singleton, List.length_nil]
          omega
      · exact absurd rfl hne
  | shiftOut =>
      cases hstep
      unfold ClimateNode.Platforms.shiftOut at hne ⊢
      split at hne
      · next byte hshift =>
          simp only [stepsLeft, hshift, Option.toList_some, Option.toList_none,
            List.length_singleton, List.length_nil]
          omega
      · exact absurd rfl hne

/-- While the channel is busy there is a step that does something. -/
theorem exists_moves (h : TxControl r) (hbusy : (r.ccr4En || r.waiting) = true) :
    ∃ op, IsTransfer op ∧ Moves r op := by
  have hmoved : ∀ {r' : TxRegs}, r' ≠ r → (Except.ok r' : Checked TxRegs) ≠ .ok r :=
    fun hne heq => hne (Except.ok.inj heq)
  cases hdr : r.dr with
  | some byte =>
      cases hshift : r.shift with
      | none =>
          refine ⟨.load, trivial, hmoved fun heq => ?_⟩
          have hsame := congrArg TxRegs.dr heq
          simp only [loadShift, hdr, hshift] at hsame
          cases hsame
      | some out =>
          refine ⟨.shiftOut, trivial, hmoved fun heq => ?_⟩
          have hsame := congrArg TxRegs.shift heq
          simp only [ClimateNode.Platforms.shiftOut, hshift] at hsame
          cases hsame
  | none =>
      by_cases hzero : r.cndtr4 = 0
      · cases hshift : r.shift with
        | some out =>
            refine ⟨.shiftOut, trivial, hmoved fun heq => ?_⟩
            have hsame := congrArg TxRegs.shift heq
            simp only [ClimateNode.Platforms.shiftOut, hshift] at hsame
            cases hsame
        | none =>
            -- everything has left; the handler's two halves remain
            have htc := h.complete hbusy hshift hdr hzero
            cases hen : r.ccr4En with
            | true =>
                have hflag := h.flag.2 ⟨hen, hzero⟩
                have hwaiting : ¬ r.waiting = true := fun hw => by
                  rw [h.apart hw] at hen
                  cases hen
                refine ⟨.irq, trivial, hmoved fun heq => ?_⟩
                rw [if_neg hwaiting, channel4Irq, if_pos hflag] at heq
                have hsame := congrArg TxRegs.ccr4En heq
                rw [hen] at hsame
                cases hsame
            | false =>
                have hwaiting := hbusy
                rw [hen, Bool.false_or] at hwaiting
                have hwait : (r.waiting && r.tc) = true := by
                  rw [hwaiting, htc]
                  rfl
                refine ⟨.wait, trivial, hmoved fun heq => ?_⟩
                rw [channel4Wait, if_pos hwait] at heq
                have hsame := congrArg TxRegs.waiting heq
                rw [hwaiting] at hsame
                cases hsame
      · have hen : r.ccr4En = true := by
          cases hen : r.ccr4En with
          | true => rfl
          | false => exact absurd (h.fetched hen) hzero
        have hcond : (r.ccr4En && r.cndtr4 != 0 && r.dr.isNone) = true := by
          rw [hen, hdr, bne_iff_ne.2 hzero]
          rfl
        refine ⟨.fetch, trivial, hmoved fun heq => ?_⟩
        rw [dmaFetch, if_pos hcond] at heq
        have hsame := congrArg TxRegs.dr heq
        rw [hdr] at hsame
        cases hsame

/-- The steps of a transfer, each of which does something. -/
theorem run_moves (ops : List TxOp) :
    ∀ {r : TxRegs}, TxControl r → (∀ op ∈ ops, IsTransfer op) → StepsMeet txStep Moves r ops →
      ∃ r', run txStep r ops = .ok r' ∧ TxControl r' ∧ stepsLeft r' + ops.length = stepsLeft r := by
  induction ops with
  | nil => exact fun {r} h _ _ => ⟨r, rfl, h, rfl⟩
  | cons op ops ih =>
      intro r h htransfer hmoves
      have hop := htransfer op List.mem_cons_self
      obtain ⟨r₁, hstep, h₁⟩ := txStep_control h hop.noEmptyBlock
      have hone := stepsLeft_of_moves h hop hmoves.1 hstep
      obtain ⟨r', hrun, h', hleft⟩ :=
        ih h₁ (fun op' hmem => htransfer op' (List.mem_cons_of_mem op hmem)) (hmoves.2 r₁ hstep)
      refine ⟨r', (run_cons_ok hstep _).trans hrun, h', ?_⟩
      rw [List.length_cons]
      omega

/-- From every state that a run without an empty block reaches: steps of the transfer that all do
something are at most `stepsLeft` many, and until the channel is free there is one more. -/
theorem transmitter_finishes {memory : Nat → UInt8} {rs485Mode tc : Bool} {ops : List TxOp}
    (hops : ∀ op ∈ ops, NoEmptyBlock op)
    (hrun : run txStep (txIdle memory rs485Mode tc) ops = .ok r) {more : List TxOp}
    (htransfer : ∀ op ∈ more, IsTransfer op) (hmoves : StepsMeet txStep Moves r more) :
    ∃ r', run txStep r more = .ok r' ∧ stepsLeft r' + more.length = stepsLeft r ∧
      ((r'.ccr4En || r'.waiting) = true → ∃ op, IsTransfer op ∧ Moves r' op) := by
  obtain ⟨s, hrun', h⟩ := run_of_invariant (txControl_idle memory rs485Mode tc)
    (fun _ _ => txStep_control) ops hops
  rw [hrun] at hrun'
  cases hrun'
  obtain ⟨r', hmore, h', hleft⟩ := run_moves more h htransfer hmoves
  exact ⟨r', hmore, hleft, exists_moves h'⟩

end Progress

/-- A block of two bytes whose second one comes late and is overwritten meanwhile. -/
def lateByte : List TxOp := [.transmit 0 2, .fetch, .load, .shiftOut, .store 1 0x42]

/-- Five steps are left; the first two fetch and load the second byte. -/
theorem transmitter_finishes_lateByte :
    ∃ r r', run txStep (txIdle (fun _ => 0x41) true true) lateByte = .ok r ∧
      run txStep r [.fetch, .load] = .ok r' ∧ stepsLeft r' + 2 = 5 ∧
      ∃ op, IsTransfer op ∧ Moves r' op := by
  have hops : ∀ op ∈ lateByte, NoEmptyBlock op := by
    simp [lateByte, NoEmptyBlock]
  have hmoves : StepsMeet txStep Moves
      ⟨Function.update (fun _ => 0x41) 1 0x42, true, some .gpioBsrr, true, 1, 1, false, none, none,
        true, false, [(0x41, some .gpioBsrr)], []⟩ [.fetch, .load] := by
    refine stepsMeet_cons_ok (fun heq => ?_) rfl (stepsMeet_cons_ok (fun heq => ?_) rfl trivial)
    · cases congrArg TxRegs.cndtr4 (Except.ok.inj heq)
    · cases congrArg TxRegs.dr (Except.ok.inj heq)
  have htransfer : ∀ op ∈ [TxOp.fetch, TxOp.load], IsTransfer op := by
    simp [IsTransfer]
  obtain ⟨r', hrun, hleft, hmore⟩ := transmitter_finishes hops rfl htransfer hmoves
  have hbusy : (r'.ccr4En || r'.waiting) = true := by
    cases hrun
    rfl
  exact ⟨_, r', rfl, hrun, hleft, hmore hbusy⟩

/-! ## A block of no bytes -/

section EmptyBlock

/-- An enabled channel with nothing to fetch and no flag set. -/
structure Blocked (r : TxRegs) : Prop where
  enabled : r.ccr4En = true
  nothing : r.cndtr4 = 0
  unflagged : r.tcif4 = false
  running : r.waiting = false
  dr : r.dr = none
  shift : r.shift = none

theorem blocked_txStep {r : TxRegs} (h : Blocked r) (op : TxOp) :
    ∃ r', txStep r op = .ok r' ∧ Blocked r' ∧ r'.events = r.events ∧ r'.line = r.line ∧
      r'.direction = r.direction := by
  have hrunning : ¬ r.waiting = true := by
    rw [h.running]
    exact Bool.false_ne_true
  cases op with
  | transmit data len =>
      refine ⟨r, ?_, h, rfl, rfl, rfl⟩
      rw [txStep, if_neg hrunning, txDmaAsync, if_pos h.enabled]
  | store addr byte =>
      exact ⟨{ r with memory := Function.update r.memory addr byte },
        congrArg Except.ok (if_neg hrunning),
        ⟨h.enabled, h.nothing, h.unflagged, h.running, h.dr, h.shift⟩, rfl, rfl, rfl⟩
  | irq =>
      have hflag : ¬ r.tcif4 = true := by
        rw [h.unflagged]
        exact Bool.false_ne_true
      refine ⟨r, ?_, h, rfl, rfl, rfl⟩
      rw [txStep, if_neg hrunning, channel4Irq, if_neg hflag]
  | wait =>
      have hwait : ¬ (r.waiting && r.tc) = true := fun hw =>
        hrunning (Bool.and_eq_true_iff.1 hw).1
      refine ⟨r, ?_, h, rfl, rfl, rfl⟩
      rw [txStep, channel4Wait, if_neg hwait]
  | fetch =>
      have hcond : ¬ (r.ccr4En && r.cndtr4 != 0 && r.dr.isNone) = true := fun hc =>
        bne_iff_ne.1 (Bool.and_eq_true_iff.1 (Bool.and_eq_true_iff.1 hc).1).2 h.nothing
      refine ⟨r, ?_, h, rfl, rfl, rfl⟩
      rw [txStep, dmaFetch, if_neg hcond]
  | load =>
      refine ⟨r, ?_, h, rfl, rfl, rfl⟩
      simp only [txStep, loadShift, h.dr]
  | shiftOut =>
      refine ⟨r, ?_, h, rfl, rfl, rfl⟩
      simp only [txStep, ClimateNode.Platforms.shiftOut, h.shift]

/-- Once a free channel has accepted a block of no bytes, nothing ever leaves, the callback hears
nothing, no further block is accepted, and the transceiver is not turned round again. -/
theorem empty_block_blocks {memory : Nat → UInt8} {rs485Mode tc : Bool} {ops : List TxOp}
    {r : TxRegs} (hops : StepsMeet txStep TxUse (txIdle memory rs485Mode tc) ops)
    (hrun : run txStep (txIdle memory rs485Mode tc) ops = .ok r)
    (hfree : (r.ccr4En || r.waiting) = false) (data : Nat) (more : List TxOp) :
    ∃ r', run txStep (txDmaAsync r data 0).2 more = .ok r' ∧ r'.events = r.events ∧
      r'.line = r.line ∧ r'.direction = (txDmaAsync r data 0).2.direction ∧
      ∀ data' len, (txDmaAsync r' data' len).1 = false := by
  obtain ⟨s, hrun', h, -⟩ := txRun_refines hops
  rw [hrun] at hrun'
  cases hrun'
  obtain ⟨hen, hwaiting⟩ := Bool.or_eq_false_iff.1 hfree
  obtain ⟨hshift, hdr, -⟩ := inFlight_eq_nil_iff.1 (h.drained (Or.inr (h.busy.trans hfree)))
  have hflag : r.tcif4 = false := by
    cases hflag : r.tcif4 with
    | false => rfl
    | true =>
        rw [(h.control.flag.1 hflag).1] at hen
        cases hen
  have hen' : ¬ r.ccr4En = true := by
    rw [hen]
    exact Bool.false_ne_true
  have hblocked : Blocked (txDmaAsync r data 0).2 ∧ (txDmaAsync r data 0).2.events = r.events ∧
      (txDmaAsync r data 0).2.line = r.line ∧
      (txDmaAsync r data 0).2.direction = (txDmaAsync r data 0).2.direction := by
    rw [txDmaAsync, if_neg hen']
    exact ⟨⟨rfl, rfl, hflag, hwaiting, hdr, hshift⟩, rfl, rfl, rfl⟩
  obtain ⟨r', hmore, hstuck, hevents, hline, hptr⟩ := run_of_invariant
    (I := fun r' => Blocked r' ∧ r'.events = r.events ∧ r'.line = r.line ∧
      r'.direction = (txDmaAsync r data 0).2.direction) (A := fun _ => True) hblocked
    (fun r₁ op h₁ _ => by
      obtain ⟨r₂, hstep, hb, hevents, hline, hptr⟩ := blocked_txStep h₁.1 op
      exact ⟨r₂, hstep, hb, hevents.trans h₁.2.1, hline.trans h₁.2.2.1, hptr.trans h₁.2.2.2⟩)
    more (fun _ _ => trivial)
  refine ⟨r', hmore, hevents, hline, hptr, fun data' len => ?_⟩
  rw [txDmaAsync, if_pos hstuck.enabled]

end EmptyBlock

end ClimateNode.Platforms
