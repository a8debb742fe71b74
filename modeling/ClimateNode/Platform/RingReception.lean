import ClimateNode.Platform.Uart

/-!
# Recognition of a frame in the receive ring

What the IDLE interrupt passes on after a frame depends on where the frame lies in the ring. Before
the end of the ring it is one chunk, the frame. Across the end it is two chunks, and a frame as long
as the ring leaves the write position where it was, so that nothing is passed on. `ring_frame_iff`
is the comparison with a callback that gets the whole frame.
-/

set_option autoImplicit false

namespace ClimateNode.Platforms

open ClimateNode.Machine ClimateNode.Service

/-- What a callback leaves in the server: the parse result, the event and the request. -/
structure Recognition where
  parseError : ModbusParseErr
  event : ModbusEvent
  request : ModbusRequest
  deriving DecidableEq, Repr

/-- What each of the callbacks for `events` leaves. -/
def recognitions (s : ModbusServer) : List UartEvent → List Recognition
  | [] => []
  | event :: events =>
      let s := modbusUartEventCallback s event
      ⟨s.parseError, s.event, s.request⟩ :: recognitions s events

theorem length_recognitions (s : ModbusServer) (events : List UartEvent) :
    (recognitions s events).length = events.length := by
  induction events generalizing s with
  | nil => rfl
  | cons event events ih => rw [recognitions, List.length_cons, ih, List.length_cons]

/-- The ring with everything before `start` passed on already. -/
def ringAt (buffer : Vector UInt8 uartRxDmaBufSize) (start : Nat) : UartRx :=
  ⟨buffer, uartRxDmaBufSize - start, start⟩

/-- The events of the IDLE interrupt after the frame has been received from `start` on. -/
def frameEvents (buffer : Vector UInt8 uartRxDmaBufSize) (start : Nat) (frame : List UInt8) :
    List UartEvent :=
  (usart1IrqHandler (frame.foldl dmaStore (ringAt buffer start))).1

section Frame

variable (buffer : Vector UInt8 uartRxDmaBufSize) {start : Nat} {frame : List UInt8}

/-- Reception starts at the start of the ring. -/
theorem uart1RxInit_eq_ringAt (u : UartRx) : uart1RxInit u = ringAt u.rxDmaBuffer 0 := rfl

theorem dmaRunning_ringAt (hstart : start < 256) :
    DmaRunning (ringAt buffer start) ∧ (ringAt buffer start).dmaPos = start := by
  refine ⟨⟨?_, ?_⟩, ?_⟩
  · show 0 < 256 - start
    omega
  · show 256 - start ≤ 256
    omega
  · show 256 - (256 - start) = start
    omega

/-- The ring after the frame: the next write position, what was passed on, and the frame read back
from its start. -/
theorem ring_after_frame (hstart : start < 256) (hlen : frame.length ≤ 256) :
    uartRxDmaBufSize - (frame.foldl dmaStore (ringAt buffer start)).cndtr5 =
        (start + frame.length) % 256 ∧
      (frame.foldl dmaStore (ringAt buffer start)).lastRxPos = start ∧
      cyclicRead (frame.foldl dmaStore (ringAt buffer start)).rxDmaBuffer.toList start
        frame.length = frame := by
  obtain ⟨hrun, hpos⟩ := dmaRunning_ringAt buffer hstart
  obtain ⟨-, hdma, -, hlast⟩ := foldl_dmaStore_spec hrun frame
  have hread := read_burst hrun hlen
  rw [hpos] at hdma hread
  exact ⟨hdma, hlast, hread⟩

/-- A frame that ends before or at the end of the ring is passed on in one chunk. -/
theorem frameEvents_of_le (hstart : start < 256) (hpos : 0 < frame.length)
    (hlen : frame.length ≤ 255) (hfits : start + frame.length ≤ 256) :
    frameEvents buffer start frame = [.rxChunk frame] := by
  obtain ⟨hdma, hlast, hread⟩ := ring_after_frame buffer hstart (Nat.le_succ_of_le hlen)
  have hsize : uartRxDmaBufSize = 256 := rfl
  have hchunk : rxChunkAt (frame.foldl dmaStore (ringAt buffer start)) start frame.length =
      .rxChunk frame := by
    rw [rxChunkAt, ← cyclicRead_of_le (by rw [Vector.length_toList]; exact hfits), hread]
  by_cases hend : start + frame.length < 256
  · -- the write position stays before the end
    rw [Nat.mod_eq_of_lt hend] at hdma
    simp only [frameEvents, usart1IrqHandler, hdma, hlast]
    rw [if_pos (by omega), if_pos (by omega), Nat.add_sub_cancel_left, hchunk]
  · -- the write position is back at the start of the buffer
    have hfull : start + frame.length = 256 := by omega
    rw [hfull, Nat.mod_self] at hdma
    simp only [frameEvents, usart1IrqHandler, hdma, hlast]
    rw [if_pos (by omega), if_neg (by omega), if_pos (by omega), if_neg (by omega),
      show uartRxDmaBufSize - start = frame.length by omega, hchunk]
    rfl

/-- A frame as long as the ring is not noticed. -/
theorem frameEvents_of_full (hstart : start < 256) (hlen : frame.length = 256) :
    frameEvents buffer start frame = [] := by
  obtain ⟨hdma, hlast, -⟩ := ring_after_frame buffer hstart (Nat.le_of_eq hlen)
  have hsame : (start + frame.length) % 256 = start := by
    rw [hlen, Nat.add_mod_right, Nat.mod_eq_of_lt hstart]
  rw [hsame] at hdma
  simp only [frameEvents, usart1IrqHandler, hdma, hlast, ne_eq, not_true_eq_false, if_false]

/-- A frame across the end of the ring is passed on in two chunks. -/
theorem frameEvents_of_lt (hstart : start < 256) (hlen : frame.length ≤ 255)
    (hwrap : 256 < start + frame.length) :
    frameEvents buffer start frame =
      [.rxChunk (frame.take (256 - start)), .rxChunk (frame.drop (256 - start))] := by
  obtain ⟨hdma, hlast, hread⟩ := ring_after_frame buffer hstart (Nat.le_succ_of_le hlen)
  have hsize : uartRxDmaBufSize = 256 := rfl
  have hnext : (start + frame.length) % 256 = start + frame.length - 256 := by
    rw [Nat.mod_eq_sub_mod (Nat.le_of_lt hwrap), Nat.mod_eq_of_lt (by omega)]
  rw [hnext] at hdma
  have hring : (frame.foldl dmaStore (ringAt buffer start)).rxDmaBuffer.toList.length = 256 :=
    Vector.length_toList
  -- the end of the ring holds the first part of the frame, its start the rest
  obtain ⟨hfirst, hsecond⟩ := @cyclicRead_parts _
    (frame.foldl dmaStore (ringAt buffer start)).rxDmaBuffer.toList start frame.length (by omega)
    (by omega) (by omega)
  rw [hring, hread] at hfirst hsecond
  have hchunks : rxChunkAt (frame.foldl dmaStore (ringAt buffer start)) start (256 - start) =
        .rxChunk (frame.take (256 - start)) ∧
      rxChunkAt (frame.foldl dmaStore (ringAt buffer start)) 0 (start + frame.length - 256) =
        .rxChunk (frame.drop (256 - start)) := by
    constructor
    · rw [rxChunkAt, ← hfirst, List.take_take, Nat.min_self]
    · rw [rxChunkAt, List.drop_zero, hsecond]
  simp only [frameEvents, usart1IrqHandler, hdma, hlast]
  rw [if_pos (by omega), if_neg (by omega), if_pos (by omega), if_pos (by omega), hsize, hchunks.1,
    hchunks.2]
  rfl

/-- A frame of at most 256 bytes is recognised as by one callback with the whole frame exactly when
it is shorter than the ring and does not run past its end. -/
theorem ring_frame_iff (s : ModbusServer) (buffer : Vector UInt8 uartRxDmaBufSize) (start : Nat)
    (frame : List UInt8) (hstart : start < 256) (hpos : 1 ≤ frame.length)
    (hlen : frame.length ≤ 256) :
    recognitions s (frameEvents buffer start frame) = recognitions s [.rxChunk frame] ↔
      frame.length ≤ 255 ∧ start + frame.length ≤ 256 := by
  by_cases hfull : frame.length = 256
  · -- no callback at all
    rw [frameEvents_of_full buffer hstart hfull]
    refine iff_of_false (fun h => ?_) fun h => by omega
    cases h
  · have hshort : frame.length ≤ 255 := by omega
    by_cases hfits : start + frame.length ≤ 256
    · rw [frameEvents_of_le buffer hstart hpos hshort hfits]
      exact iff_of_true rfl ⟨hshort, hfits⟩
    · -- two callbacks instead of one
      refine iff_of_false (fun h => ?_) fun h => hfits h.2
      have := congrArg List.length h
      rw [frameEvents_of_lt buffer hstart hshort (by omega), length_recognitions,
        length_recognitions] at this
      cases this

end Frame

/-- A read request of eight bytes. -/
def ringFrame : List UInt8 := [0x01, 0x03, 0x00, 0x03, 0x00, 0x01, 0x74, 0x0A]

theorem ring_frame_iff_start :
    recognitions (modbusServerInit 1 5)
        (frameEvents (Vector.replicate uartRxDmaBufSize 0) 10 ringFrame) =
      recognitions (modbusServerInit 1 5) [.rxChunk ringFrame] :=
  (ring_frame_iff (modbusServerInit 1 5) (Vector.replicate uartRxDmaBufSize 0) 10 ringFrame
    (by decide) (by decide) (by decide)).2 (by decide)

/-- Four places before the end of the ring the same request is two short chunks. -/
theorem ring_frame_torn :
    ¬ ∀ (s : ModbusServer) (buffer : Vector UInt8 uartRxDmaBufSize) (start : Nat)
      (frame : List UInt8), start < 256 → 1 ≤ frame.length → frame.length ≤ 256 →
      recognitions s (frameEvents buffer start frame) = recognitions s [.rxChunk frame] := by
  intro h
  have hsame := h (modbusServerInit 1 5) (Vector.replicate uartRxDmaBufSize 0) 252 ringFrame
    (by decide) (by decide) (by decide)
  have hlen := congrArg List.length hsame
  rw [frameEvents_of_lt _ (by decide) (by decide) (by decide), length_recognitions,
    length_recognitions] at hlen
  cases hlen

end ClimateNode.Platforms
