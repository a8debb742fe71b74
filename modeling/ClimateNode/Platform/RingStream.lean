import ClimateNode.Platform.RingReception

/-!
# The received stream

The receive ring over a whole run of bytes and IDLE interrupts. While fewer than 256 bytes arrive
before each interrupt, the chunks that the interrupts pass on are the received bytes in order, up to
the last interrupt, and each lies inside the buffer (`ring_delivers_stream`).
-/

set_option autoImplicit false

namespace ClimateNode.Platforms

open ClimateNode.Machine ClimateNode.Service

/-- A byte that the DMA stores, or an interrupt with the IDLE flag set. -/
inductive RxOp where
  | byte (byte : UInt8)
  | idle

/-- The bytes of the chunks among events. -/
def chunkBytes (events : List UartEvent) : List UInt8 :=
  events.flatMap fun
    | .rxChunk data => data
    | _ => []

@[simp] theorem chunkBytes_append (xs ys : List UartEvent) :
    chunkBytes (xs ++ ys) = chunkBytes xs ++ chunkBytes ys := List.flatMap_append

/-- The positions and lengths of the chunks that `USART1_IRQHandler` passes to the callback. -/
def chunkRanges (u : UartRx) : List (Nat × Nat) :=
  let currentDmaPos := uartRxDmaBufSize - u.cndtr5
  if currentDmaPos ≠ u.lastRxPos then
    if currentDmaPos > u.lastRxPos then [(u.lastRxPos, currentDmaPos - u.lastRxPos)]
    else
      (if uartRxDmaBufSize - u.lastRxPos > 0 then
          [(u.lastRxPos, uartRxDmaBufSize - u.lastRxPos)] else []) ++
        (if currentDmaPos > 0 then [(0, currentDmaPos)] else [])
  else []

/-- The ring with what has happened to it: all bytes received, those received before the last
interrupt, and the chunks passed on, with their ranges. -/
structure RxTrace where
  ring : UartRx
  received : List UInt8
  notified : List UInt8
  events : List UartEvent
  ranges : List (Nat × Nat)

/-- One byte or interrupt. -/
def rxStep (t : RxTrace) : RxOp → RxTrace
  | .byte byte => { t with ring := dmaStore t.ring byte, received := t.received ++ [byte] }
  | .idle =>
      let r := usart1IrqHandler t.ring
      { t with
        ring := r.2
        notified := t.received
        events := t.events ++ r.1
        ranges := t.ranges ++ chunkRanges t.ring }

/-- The ring after `ops`, from the initialisation on. -/
def rxRun (u : UartRx) (ops : List RxOp) : RxTrace :=
  ops.foldl rxStep ⟨uart1RxInit u, [], [], [], []⟩

/-- Fewer than 256 bytes arrive before each interrupt, `n` of them already before `ops`. -/
def ShortGaps : Nat → List RxOp → Prop
  | _, [] => True
  | n, .byte _ :: ops => ShortGaps (n + 1) ops
  | n, .idle :: ops => n < uartRxDmaBufSize ∧ ShortGaps 0 ops

instance decidableShortGaps : ∀ (n : Nat) (ops : List RxOp), Decidable (ShortGaps n ops)
  | _, [] => isTrue trivial
  | n, .byte _ :: ops => decidableShortGaps (n + 1) ops
  | n, .idle :: ops =>
      have := decidableShortGaps 0 ops
      inferInstanceAs (Decidable (n < uartRxDmaBufSize ∧ ShortGaps 0 ops))

/-! ## One interrupt -/

section Interrupt

variable {u : UartRx}

/-- The chunks are the ranges of the buffer. -/
theorem usart1IrqHandler_chunks (u : UartRx) :
    (usart1IrqHandler u).1 = (chunkRanges u).map fun range => rxChunkAt u range.1 range.2 := by
  simp only [usart1IrqHandler, chunkRanges]
  split_ifs <;> rfl

/-- A range ends before the end of the buffer. -/
theorem chunkRanges_inside (hlast : u.lastRxPos ≤ uartRxDmaBufSize) :
    ∀ range ∈ chunkRanges u, range.1 + range.2 ≤ uartRxDmaBufSize := by
  have hdma : uartRxDmaBufSize - u.cndtr5 ≤ uartRxDmaBufSize := Nat.sub_le _ _
  rintro ⟨pos, len⟩ hmem
  simp only [chunkRanges] at hmem
  split_ifs at hmem <;>
    simp only [List.mem_append, List.mem_cons, List.not_mem_nil, or_false, false_or,
      Prod.mk.injEq] at hmem <;>
    omega

/-- Everything before `u` has been passed on. -/
structure Drained (u : UartRx) : Prop where
  running : DmaRunning u
  last : u.lastRxPos = u.dmaPos

theorem drained_uart1RxInit (u : UartRx) : Drained (uart1RxInit u) where
  running := ⟨Nat.zero_lt_succ _, Nat.le_refl _⟩
  last := rfl

/-- A ring with nothing left to pass on is the ring that starts at its write position. -/
theorem Drained.eq_ringAt (h : Drained u) : u = ringAt u.rxDmaBuffer u.dmaPos := by
  have hle := h.running.le
  have hlast := h.last
  obtain ⟨buffer, cndtr5, last⟩ := u
  obtain rfl : last = uartRxDmaBufSize - cndtr5 := hlast
  have hcount : uartRxDmaBufSize - (uartRxDmaBufSize - cndtr5) = cndtr5 := by
    have : cndtr5 ≤ uartRxDmaBufSize := hle
    omega
  simp only [ringAt, UartRx.dmaPos, hcount]

/-- The interrupt moves the read position to the write position, and nothing else. -/
theorem usart1IrqHandler_ring (u : UartRx) :
    (usart1IrqHandler u).2 = { u with lastRxPos := u.dmaPos } := by
  by_cases hnew : uartRxDmaBufSize - u.cndtr5 = u.lastRxPos
  · have hsame : (usart1IrqHandler u).2 = u := by simp [usart1IrqHandler, hnew]
    rw [hsame, UartRx.dmaPos, hnew]
  · simp [usart1IrqHandler, hnew, UartRx.dmaPos]

theorem drained_interrupt (h : DmaRunning u) : Drained (usart1IrqHandler u).2 := by
  rw [usart1IrqHandler_ring]
  exact ⟨⟨h.pos, h.le⟩, rfl⟩

/-- The interrupt passes on the bytes since the last one. -/
theorem Drained.chunks (h : Drained u) {pending : List UInt8}
    (hlen : pending.length < uartRxDmaBufSize) :
    chunkBytes (usart1IrqHandler (pending.foldl dmaStore u)).1 = pending := by
  have hstart := h.running.dmaPos_lt
  have hlen : pending.length ≤ 255 := Nat.le_of_lt_succ hlen
  cases pending with
  | nil =>
      -- no new data: the positions agree
      have hnew : uartRxDmaBufSize - u.cndtr5 = u.lastRxPos := h.last.symm
      simp [usart1IrqHandler, hnew, chunkBytes]
  | cons byte bytes =>
      rw [h.eq_ringAt]
      show chunkBytes (frameEvents u.rxDmaBuffer u.dmaPos (byte :: bytes)) = byte :: bytes
      by_cases hfits : u.dmaPos + (byte :: bytes).length ≤ 256
      · rw [frameEvents_of_le _ hstart (by simp) hlen hfits]
        exact List.append_nil _
      · rw [frameEvents_of_lt _ hstart hlen (by omega)]
        show _ ++ (_ ++ []) = _
        rw [List.append_nil, List.take_append_drop]

end Interrupt

/-! ## Runs -/

section Runs

/-- A trace whose bytes `pending` came after the last interrupt. -/
structure StreamInv (t : RxTrace) (pending : List UInt8) : Prop where
  ring : ∃ u, Drained u ∧ t.ring = pending.foldl dmaStore u
  received : t.received = t.notified ++ pending
  delivered : chunkBytes t.events = t.notified
  inside : ∀ range ∈ t.ranges, range.1 + range.2 ≤ uartRxDmaBufSize

variable {t : RxTrace} {pending : List UInt8}

theorem streamInv_init (u : UartRx) : StreamInv ⟨uart1RxInit u, [], [], [], []⟩ [] where
  ring := ⟨_, drained_uart1RxInit u, rfl⟩
  received := rfl
  delivered := rfl
  inside := by simp

/-- A byte waits for the next interrupt. -/
theorem StreamInv.byte (h : StreamInv t pending) (byte : UInt8) :
    StreamInv (rxStep t (.byte byte)) (pending ++ [byte]) where
  ring := by
    obtain ⟨u, hu, hring⟩ := h.ring
    refine ⟨u, hu, ?_⟩
    rw [List.foldl_append, ← hring]
    rfl
  received := by
    show t.received ++ [byte] = t.notified ++ (pending ++ [byte])
    rw [h.received, List.append_assoc]
  delivered := h.delivered
  inside := h.inside

/-- An interrupt passes all waiting bytes on, when they are fewer than the ring holds. -/
theorem StreamInv.idle (h : StreamInv t pending) (hlen : pending.length < uartRxDmaBufSize) :
    StreamInv (rxStep t .idle) [] := by
  obtain ⟨u, hu, hring⟩ := h.ring
  obtain ⟨hrun, -, -, hlast⟩ := foldl_dmaStore_spec hu.running pending
  refine ⟨⟨(usart1IrqHandler t.ring).2, ?_, rfl⟩, (List.append_nil _).symm, ?_, ?_⟩
  · rw [hring]
    exact drained_interrupt hrun
  · show chunkBytes (t.events ++ (usart1IrqHandler t.ring).1) = t.received
    rw [chunkBytes_append, h.delivered, hring, hu.chunks hlen, h.received]
  · intro range hmem
    rcases List.mem_append.1 hmem with hold | hnew
    · exact h.inside range hold
    · refine chunkRanges_inside ?_ range hnew
      rw [hring, hlast, hu.last]
      exact Nat.le_of_lt hu.running.dmaPos_lt

/-- A run with short gaps keeps the invariant. -/
theorem StreamInv.run {ops : List RxOp} (h : StreamInv t pending)
    (hgaps : ShortGaps pending.length ops) : ∃ rest, StreamInv (ops.foldl rxStep t) rest := by
  induction ops generalizing t pending with
  | nil => exact ⟨pending, h⟩
  | cons op ops ih =>
      cases op with
      | byte byte =>
          refine ih (h.byte byte) ?_
          rw [List.length_append, List.length_singleton]
          exact hgaps
      | idle => exact ih (h.idle hgaps.1) hgaps.2

/-- From the initialisation on, while fewer than 256 bytes arrive before each interrupt, the chunks
passed to the callback are the received bytes up to the last interrupt, in order, and each is a
range inside the buffer. -/
theorem ring_delivers_stream (u : UartRx) (ops : List RxOp) (hgaps : ShortGaps 0 ops) :
    chunkBytes (rxRun u ops).events = (rxRun u ops).notified ∧
      (∀ range ∈ (rxRun u ops).ranges, range.1 + range.2 ≤ uartRxDmaBufSize) ∧
      ∀ u : UartRx, (usart1IrqHandler u).1 =
        (chunkRanges u).map fun range => rxChunkAt u range.1 range.2 := by
  obtain ⟨rest, hinv⟩ := (streamInv_init u).run hgaps
  exact ⟨hinv.delivered, hinv.inside, usart1IrqHandler_chunks⟩

end Runs

/-- 250 bytes, an interrupt, ten bytes around the end of the ring and an interrupt. -/
def wrappingRun : List RxOp :=
  List.replicate 250 (.byte 0) ++ .idle :: (List.range 10).map (fun i => .byte (UInt8.ofNat i)) ++
    [.idle]

/-- The last ten bytes come as the six before the end of the ring and the four after it. -/
theorem ring_delivers_stream_wrap :
    (rxRun ⟨Vector.replicate uartRxDmaBufSize 0, 0, 0⟩ wrappingRun).ranges =
        [(0, 250), (250, 6), (0, 4)] ∧
      chunkBytes (rxRun ⟨Vector.replicate uartRxDmaBufSize 0, 0, 0⟩ wrappingRun).events =
        List.replicate 250 0 ++ (List.range 10).map UInt8.ofNat := by
  refine ⟨by decide +kernel, ?_⟩
  rw [(ring_delivers_stream ⟨Vector.replicate uartRxDmaBufSize 0, 0, 0⟩ wrappingRun
    (by decide +kernel)).1]
  decide +kernel

end ClimateNode.Platforms
