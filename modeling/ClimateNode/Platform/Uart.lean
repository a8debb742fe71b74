import ClimateNode.Machine.CyclicBuffer
import ClimateNode.Service.ModbusServer

/-!
# The UART driver

`bsp/stm32f1/uart.c`: the receive ring that DMA channel 5 writes and the IDLE interrupt reads, and
the transmit channel 4. The hardware's part is the storing of a received byte (`dmaStore`) and the
blocks that the transmit channel was started with. Both interrupt handlers return the events they
pass to the registered callback. The channel's registers and the turning of the RS-485 transceiver
are in `Transmitter`.
-/

set_option autoImplicit false

namespace ClimateNode.Platforms

open ClimateNode.Machine ClimateNode.Service

/-! ## Reception -/

/-- `UART_RX_DMA_BUF_SIZE`. -/
def uartRxDmaBufSize : Nat := 256

/-- The receive ring: `g_rx_dma_buffer`, the counter `DMA1_CNDTR5` and `g_last_rx_pos`. -/
structure UartRx where
  rxDmaBuffer : Vector UInt8 uartRxDmaBufSize
  cndtr5 : Nat
  lastRxPos : Nat

/-- Where the DMA writes next; the counter counts down from the buffer size. -/
def UartRx.dmaPos (u : UartRx) : Nat := uartRxDmaBufSize - u.cndtr5

/-- The DMA stores a received byte. In circular mode the counter starts again after the last
place. -/
def dmaStore (u : UartRx) (byte : UInt8) : UartRx :=
  { u with
    rxDmaBuffer := u.rxDmaBuffer.setIfInBounds u.dmaPos byte
    cndtr5 := if u.cndtr5 = 1 then uartRxDmaBufSize else u.cndtr5 - 1 }

/-- The chunk of the buffer at a position. -/
def rxChunkAt (u : UartRx) (pos len : Nat) : UartEvent :=
  .rxChunk ((u.rxDmaBuffer.toList.drop pos).take len)

/-- `USART1_IRQHandler` with the IDLE flag set: the chunks passed to the callback, in order. -/
def usart1IrqHandler (u : UartRx) : List UartEvent × UartRx :=
  let currentDmaPos := uartRxDmaBufSize - u.cndtr5
  if currentDmaPos ≠ u.lastRxPos then
    let chunks :=
      if currentDmaPos > u.lastRxPos then
        [rxChunkAt u u.lastRxPos (currentDmaPos - u.lastRxPos)]
      else
        -- the DMA has passed the end of the buffer
        (if uartRxDmaBufSize - u.lastRxPos > 0 then
            [rxChunkAt u u.lastRxPos (uartRxDmaBufSize - u.lastRxPos)] else []) ++
          (if currentDmaPos > 0 then [rxChunkAt u 0 currentDmaPos] else [])
    (chunks, { u with lastRxPos := currentDmaPos })
  else ([], u)

/-- The receive part of `uart1_async_init`. -/
def uart1RxInit (u : UartRx) : UartRx := { u with cndtr5 := uartRxDmaBufSize, lastRxPos := 0 }

/-! ## Transmission -/

/-- The transmit channel: its enable bit in `DMA1_CCR4`, and the blocks it was started with. -/
structure UartTx where
  enabled : Bool
  taken : List (List UInt8)
  deriving DecidableEq, Repr

/-- `uart1_tx_dma_async`: a channel that is still enabled refuses the block. -/
def uart1TxDmaAsync (tx : UartTx) (data : List UInt8) : Bool × UartTx :=
  if tx.enabled then (false, tx) else (true, ⟨true, tx.taken ++ [data]⟩)

/-- `DMA1_Channel4_IRQHandler` with the transfer-complete flag set. -/
def dma1Channel4IrqHandler (tx : UartTx) : List UartEvent × UartTx :=
  ([.txComplete], { tx with enabled := false })

/-! ## The receive ring after a burst -/

section Receive

variable {u : UartRx}

/-- The counter is between one and the buffer size. -/
structure DmaRunning (u : UartRx) : Prop where
  pos : 0 < u.cndtr5
  le : u.cndtr5 ≤ uartRxDmaBufSize

theorem DmaRunning.dmaPos_lt (h : DmaRunning u) : u.dmaPos < uartRxDmaBufSize := by
  have := h.pos
  have := h.le
  rw [UartRx.dmaPos]
  omega

/-- A stored byte moves the write position by one, around the end. -/
theorem dmaStore_spec (h : DmaRunning u) (byte : UInt8) :
    DmaRunning (dmaStore u byte) ∧
      (dmaStore u byte).dmaPos = (u.dmaPos + 1) % uartRxDmaBufSize ∧
      (dmaStore u byte).rxDmaBuffer.toList = u.rxDmaBuffer.toList.set u.dmaPos byte ∧
      (dmaStore u byte).lastRxPos = u.lastRxPos := by
  have hpos := h.pos
  have hle := h.le
  have hsize : uartRxDmaBufSize = 256 := rfl
  refine ⟨?_, ?_, by simp [dmaStore], rfl⟩
  · constructor
    · show 0 < if u.cndtr5 = 1 then uartRxDmaBufSize else u.cndtr5 - 1
      split <;> omega
    · show (if u.cndtr5 = 1 then uartRxDmaBufSize else u.cndtr5 - 1) ≤ uartRxDmaBufSize
      split <;> omega
  · show 256 - (if u.cndtr5 = 1 then 256 else u.cndtr5 - 1) = (256 - u.cndtr5 + 1) % 256
    split <;> omega

/-- A burst is written from the write position on. -/
theorem foldl_dmaStore_spec (h : DmaRunning u) (bytes : List UInt8) :
    DmaRunning (bytes.foldl dmaStore u) ∧
      (bytes.foldl dmaStore u).dmaPos = (u.dmaPos + bytes.length) % uartRxDmaBufSize ∧
      (bytes.foldl dmaStore u).rxDmaBuffer.toList =
        cyclicWrite u.rxDmaBuffer.toList u.dmaPos bytes ∧
      (bytes.foldl dmaStore u).lastRxPos = u.lastRxPos := by
  induction bytes generalizing u with
  | nil => exact ⟨h, (Nat.mod_eq_of_lt h.dmaPos_lt).symm, rfl, rfl⟩
  | cons byte bytes ih =>
      obtain ⟨hrun, hpos, hbuf, hlast⟩ := dmaStore_spec h byte
      obtain ⟨hrun', hpos', hbuf', hlast'⟩ := ih hrun
      refine ⟨hrun', ?_, ?_, hlast'.trans hlast⟩
      · rw [List.foldl_cons, hpos', hpos, Nat.mod_add_mod, List.length_cons]
        congr 1
        omega
      · rw [List.foldl_cons, hbuf', hbuf, hpos, cyclicWrite, Vector.length_toList]

/-- The burst is read back from where it starts. -/
theorem read_burst (h : DmaRunning u) {bytes : List UInt8}
    (hlen : bytes.length ≤ uartRxDmaBufSize) :
    cyclicRead (bytes.foldl dmaStore u).rxDmaBuffer.toList u.dmaPos bytes.length = bytes := by
  rw [(foldl_dmaStore_spec h bytes).2.2.1]
  refine cyclicRead_cyclicWrite ?_ bytes ?_
  · rw [Vector.length_toList]
    exact h.dmaPos_lt
  · rw [Vector.length_toList]
    exact hlen

end Receive

end ClimateNode.Platforms
