import ClimateNode.Machine.Observation
import ClimateNode.Service.PolledBursts

/-!
# The polled server and the DMA driver

The server has two ways in: `modbus_server_task` polls bytes, up to sixteen a call, and passes its
buffer on when the line has been silent; under DMA the driver passes each chunk between two silences
to `modbus_uart_event_callback` itself. As long as no burst is longer than the buffer, both raise
their requests for the same bursts and leave the same event, parse error, counters and head of the
request, after any sequence of calls and cleared events, however the bytes fall into the calls
(`polled_agrees_with_dma`). The payload of a request is left out: its pointer leads into the
server's buffer on one way and into the driver's ring on the other, and both are written on while
the request stands. One number differs: the polled way counts every byte twice.
-/

set_option autoImplicit false

namespace ClimateNode.Service

open ClimateNode.Machine

universe u

variable {ρ : Type u}

/-- A call of the task, or `modbus_server_clear_event`. -/
inductive PolledOp (ρ : Type u) where
  | call (c : PollCall ρ)
  | clear

def polledStep (recv : ρ → Option UInt8 × ρ) (t : BurstTrace) : PolledOp ρ → Checked BurstTrace
  | .call c => pollStep recv t c
  | .clear => .ok { t with server := modbusServerClearEvent t.server }

/-- What reaches the server under DMA. -/
inductive DmaEvent where
  | chunk (bytes : List UInt8)
  | clear
  deriving DecidableEq, Repr

/-- The server under DMA, with the chunk when it raises a request. -/
def dmaServerStep (s : ModbusServer) : DmaEvent → ModbusServer × List (List UInt8)
  | .chunk bytes =>
      let s' := modbusUartEventCallback s (.rxChunk bytes)
      (s', if s'.event = .request then [bytes] else [])
  | .clear => (modbusServerClearEvent s, [])

/-- What a step is for the server under DMA: the burst that a silence ends is a chunk. -/
def polledEvents (recv : ρ → Option UInt8 × ρ) (t : BurstTrace) (op : PolledOp ρ)
    (_ : BurstTrace) : List DmaEvent :=
  match op with
  | .call c => if t.Silent recv c then [.chunk t.burst] else []
  | .clear => [.clear]

/-- No burst is longer than the buffer. -/
def FitsBuffer (recv : ρ → Option UInt8 × ρ) (t : BurstTrace) : PolledOp ρ → Prop
  | .call c => (pollCall recv t c).burst.length ≤ modbusServerMaxFrame
  | .clear => True

instance (recv : ρ → Option UInt8 × ρ) (t : BurstTrace) (op : PolledOp ρ) :
    Decidable (FitsBuffer recv t op) :=
  match op with
  | .call _ => inferInstanceAs (Decidable (_ ≤ _))
  | .clear => isTrue trivial

/-- Two requests agree in all but the bytes behind their pointers. -/
structure SameHead (p q : ModbusRequest) : Prop where
  slaveAddr : p.slaveAddr = q.slaveAddr
  function : p.function = q.function
  dataLen : p.data.length = q.data.length

/-- Everything that a server itself says of the frames it has seen. -/
structure SameVerdict (p q : ModbusServer) : Prop where
  slaveAddr : p.slaveAddr = q.slaveAddr
  event : p.event = q.event
  request : SameHead p.request q.request
  parseError : p.parseError = q.parseError
  frameCount : p.frameCount = q.frameCount
  errorCount : p.errorCount = q.errorCount
  overflowCount : p.overflowCount = q.overflowCount

/-- The polled server beside the one under DMA. -/
structure Agrees (silenceMs : UInt32) (t : BurstTrace) (q : ModbusServer) : Prop where
  buf : t.server.buf = t.burst
  time : t.burst ≠ [] → t.server.lastByteMs = t.lastRxMs
  fits : t.burst.length ≤ modbusServerMaxFrame
  silence : t.server.silenceMs = silenceMs
  verdict : SameVerdict t.server q
  rxByteCount :
    t.server.rxByteCount = q.rxByteCount + q.rxByteCount + UInt32.ofNat t.burst.length

theorem agrees_burstStart (slaveAddr : UInt8) (silenceMs : UInt32) :
    Agrees silenceMs (burstStart slaveAddr silenceMs) (modbusServerInit slaveAddr silenceMs) where
  buf := rfl
  time := fun hne => absurd rfl hne
  fits := Nat.zero_le _
  silence := rfl
  verdict := ⟨rfl, rfl, ⟨rfl, rfl, rfl⟩, rfl, rfl, rfl, rfl⟩
  rxByteCount := rfl

/-! ## A chunk -/

section Chunk

variable {p q : ModbusServer}

/-- The parser's answer does not depend on the slot, and the head that it leaves only on the head
it finds. -/
theorem SameHead.parse {out out' : ModbusRequest} (h : SameHead out out') (frame : List UInt8)
    (ownSlaveAddr : UInt8) :
    (modbusParseRequest frame ownSlaveAddr out).1 = (modbusParseRequest frame ownSlaveAddr out').1 ∧
      SameHead (modbusParseRequest frame ownSlaveAddr out).2
        (modbusParseRequest frame ownSlaveAddr out').2 := by
  simp only [modbusParseRequest]
  split_ifs
  · exact ⟨rfl, h⟩
  · exact ⟨rfl, h⟩
  · exact ⟨rfl, h⟩
  -- a frame for this node fills the slot
  all_goals exact ⟨rfl, rfl, rfl, rfl⟩

/-- The callback says the same on both. -/
theorem SameVerdict.rxChunk (h : SameVerdict p q) (data : List UInt8) :
    SameVerdict (modbusRxChunk p data) (modbusRxChunk q data) := by
  obtain ⟨hcode, hhead⟩ := h.request.parse data q.slaveAddr
  obtain ⟨hslave, hevent, -, herror, hframes, herrors, hoverflow⟩ := h
  simp only [modbusRxChunk, hslave, hcode]
  by_cases hok : (modbusParseRequest data q.slaveAddr q.request).1 = .ok
  · simp only [hok, if_true]
    exact ⟨rfl, rfl, hhead, rfl, congrArg (· + 1) hframes, herrors, hoverflow⟩
  · simp only [if_neg hok]
    exact ⟨rfl, rfl, hhead, rfl, hframes, congrArg (· + 1) herrors, hoverflow⟩

theorem rxByteCount_modbusRxChunk (s : ModbusServer) (data : List UInt8) :
    (modbusRxChunk s data).rxByteCount = s.rxByteCount + UInt32.ofNat data.length := by
  unfold modbusRxChunk
  dsimp only
  split
  · rfl
  · rfl

theorem event_modbusRxChunk (s : ModbusServer) (data : List UInt8) :
    (modbusRxChunk s data).event = .request ↔ IsRequest s.slaveAddr data := by
  rw [IsRequest, ← modbusParseRequest_eq_ok_iff data s.slaveAddr s.request,
    ← parseEvent_eq_request_iff]
  unfold modbusRxChunk
  dsimp only
  split
  · exact Iff.rfl
  · exact Iff.rfl

end Chunk

/-! ## The loop -/

section Loop

variable {recv : ρ → Option UInt8 × ρ}

/-- Bytes that fit are kept. -/
theorem modbusPoll_fits (recv : ρ → Option UInt8 × ρ) (nowMs : UInt32) (n : Nat)
    (s : ModbusServer) (ctx : ρ) (log : List UInt8) :
    ∃ bytes, (modbusPoll (loggedRecv recv) nowMs n s (ctx, log)).recvCtx.2 = log ++ bytes ∧
      (s.buf.length + bytes.length ≤ modbusServerMaxFrame →
        (modbusPoll (loggedRecv recv) nowMs n s (ctx, log)).overflowed = false ∧
          (modbusPoll (loggedRecv recv) nowMs n s (ctx, log)).server =
            { s with
              buf := s.buf ++ bytes
              lastByteMs := if bytes = [] then s.lastByteMs else nowMs
              rxByteCount := s.rxByteCount + UInt32.ofNat bytes.length }) := by
  induction n generalizing s ctx log with
  | zero =>
      refine ⟨[], (List.append_nil log).symm, fun _ => ⟨rfl, ?_⟩⟩
      simp only [modbusPoll, List.append_nil, if_true, List.length_nil]
      rw [show UInt32.ofNat 0 = 0 from rfl, UInt32.add_zero]
  | succ n ih =>
      cases hbyte : (recv ctx).1 with
      | none =>
          rw [modbusPoll, loggedRecv_none hbyte]
          refine ⟨[], (List.append_nil log).symm, fun _ => ⟨rfl, ?_⟩⟩
          simp only [List.append_nil, if_true, List.length_nil]
          rw [show UInt32.ofNat 0 = 0 from rfl, UInt32.add_zero]
      | some byte =>
          simp only [modbusPoll, loggedRecv_some hbyte]
          by_cases hfull : s.buf.length ≥ modbusServerMaxFrame
          · rw [if_pos hfull]
            refine ⟨[byte], rfl, fun hfits => ?_⟩
            rw [List.length_singleton] at hfits
            exact absurd hfits (by omega)
          · rw [if_neg hfull]
            obtain ⟨bytes, hlog, hkept⟩ := ih
              { s with
                buf := s.buf ++ [byte]
                lastByteMs := nowMs
                rxByteCount := s.rxByteCount + 1 } (recv ctx).2 (log ++ [byte])
            refine ⟨byte :: bytes, by rw [hlog, List.append_assoc, List.singleton_append],
              fun hfits => ?_⟩
            obtain ⟨hnone, hserver⟩ := hkept (by
              simp only [List.length_append, List.length_cons, List.length_nil] at hfits ⊢
              omega)
            refine ⟨hnone, ?_⟩
            rw [hserver, if_neg (List.cons_ne_nil byte bytes), ite_self, List.append_assoc,
              List.singleton_append, List.length_cons, UInt32.ofNat_add, UInt32.add_assoc,
              UInt32.add_comm (UInt32.ofNat bytes.length)]
            rfl

end Loop

/-! ## Calls -/

section Calls

variable {recv : ρ → Option UInt8 × ρ} {silenceMs : UInt32} {t : BurstTrace} {q : ModbusServer}

theorem Agrees.holds (h : Agrees silenceMs t q) : HoldsBurst t.server t.burst t.lastRxMs where
  buf := h.buf.trans (burstTail_of_le h.fits).symm
  time := fun hne => h.time (by rwa [← h.buf])

/-- Whatever a call does, the bytes it has taken are those of its loop. -/
theorem modbusServerTask_recvCtx (recv : ρ → Option UInt8 × ρ) (ctx : ρ) (s : ModbusServer)
    (nowMs : UInt32) :
    (modbusServerTask (some recv) ctx s nowMs).2.2 = (modbusPoll recv nowMs 16 s ctx).recvCtx := by
  simp only [modbusServerTask]
  split_ifs <;> rfl

/-- A call that finds a byte, and whose bytes fit, is its loop: the last byte is of this call. -/
theorem modbusServerTask_fits (recv : ρ → Option UInt8 × ρ) (s : ModbusServer) (ctx : ρ)
    (nowMs : UInt32) (hpos : 1 ≤ s.silenceMs.toNat) (hspan : s.silenceMs.toNat < 2147483648)
    (hroom : (modbusPoll (loggedRecv recv) nowMs 16 s (ctx, [])).overflowed = false)
    (hsilence : (modbusPoll (loggedRecv recv) nowMs 16 s (ctx, [])).server.silenceMs = s.silenceMs)
    (hlast : (modbusPoll (loggedRecv recv) nowMs 16 s (ctx, [])).server.lastByteMs = nowMs) :
    (modbusServerTask (some (loggedRecv recv)) (ctx, []) s nowMs).2.1 =
      (modbusPoll (loggedRecv recv) nowMs 16 s (ctx, [])).server := by
  have hquiet : ¬ ((0 : UInt32).toInt32 ≥ s.silenceMs.toInt32) := by
    intro hdue
    have hle := ((toInt32_ge_iff hspan).1 hdue).1
    exact absurd hpos (Nat.not_le.2 (Nat.lt_succ_of_le hle))
  simp only [modbusServerTask, hroom, hsilence, hlast, UInt32.sub_self, Bool.false_eq_true,
    if_false]
  rw [if_neg fun hdue => hquiet hdue.2]

/-- A call that finds a byte only adds to the burst. -/
theorem agrees_pollCall_some (hpos : 1 ≤ silenceMs.toNat) (hspan : silenceMs.toNat < 2147483648)
    (h : Agrees silenceMs t q) {c : PollCall ρ} {byte : UInt8}
    (hbyte : (recv c.recvCtx).1 = some byte)
    (hfits : (pollCall recv t c).burst.length ≤ modbusServerMaxFrame) :
    Agrees silenceMs (pollCall recv t c) q ∧ (pollCall recv t c).accepted = t.accepted := by
  have hloud : ¬ t.Silent recv c := by
    intro hsilent
    have hnone := hsilent.1
    rw [hbyte] at hnone
    cases hnone
  obtain ⟨bytes, hlog, hkept⟩ := modbusPoll_fits recv c.nowMs 16 t.server c.recvCtx []
  obtain ⟨received, hlog', hne, -⟩ := modbusPoll_logged recv c.nowMs 16 h.holds c.recvCtx []
  -- one loop, one log
  have hsame : received = bytes := by
    rw [hlog] at hlog'
    exact (List.append_cancel_left hlog').symm
  subst hsame
  have hne : received ≠ [] := hne (Nat.succ_ne_zero _) (by
    rw [hbyte]
    exact Option.some_ne_none _)
  rw [List.nil_append] at hlog
  have htaken : (modbusServerTask (some (loggedRecv recv)) (c.recvCtx, []) t.server c.nowMs).2.2.2 =
      received := by rw [modbusServerTask_recvCtx, hlog]
  have hburst : (pollCall recv t c).burst = t.burst ++ received := by
    simp only [pollCall, if_neg hloud, htaken]
  rw [hburst, List.length_append] at hfits
  obtain ⟨hroom, hserver⟩ := hkept (by rwa [h.buf])
  rw [if_neg hne] at hserver
  have htask := modbusServerTask_fits recv t.server c.recvCtx c.nowMs (by rwa [h.silence])
    (by rwa [h.silence]) hroom (by rw [hserver]) (by rw [hserver])
  rw [hserver] at htask
  have hcalm : ¬ RaisesRequest t.server
      (modbusServerTask (some (loggedRecv recv)) (c.recvCtx, []) t.server c.nowMs).2.1 := by
    apply not_raisesRequest_of_frameCount
    rw [htask]
  refine ⟨⟨?_, fun _ => ?_, ?_, ?_, ?_, ?_⟩, by simp only [pollCall, if_neg hcalm]⟩
  · rw [hburst]
    simp only [pollCall, htask, h.buf]
  · simp only [pollCall, htask, htaken, if_neg hne]
  · rw [hburst, List.length_append]
    exact hfits
  · simp only [pollCall, htask, h.silence]
  · simp only [pollCall, htask]
    exact ⟨h.verdict.slaveAddr, h.verdict.event, h.verdict.request, h.verdict.parseError,
      h.verdict.frameCount, h.verdict.errorCount, h.verdict.overflowCount⟩
  · rw [hburst, List.length_append, UInt32.ofNat_add, ← UInt32.add_assoc, ← h.rxByteCount]
    simp only [pollCall, htask]

/-- A call that finds no byte in a silence passes the burst on. -/
theorem agrees_pollCall_silent (hspan : silenceMs.toNat < 2147483648) (h : Agrees silenceMs t q)
    {c : PollCall ρ} (hsilent : t.Silent recv c) :
    Agrees silenceMs (pollCall recv t c) (dmaServerStep q (.chunk t.burst)).1 ∧
      (pollCall recv t c).accepted = t.accepted ++ (dmaServerStep q (.chunk t.burst)).2 := by
  have htask := modbusServerTask_none (s := t.server) [] hsilent.1 (by rwa [h.silence]) c.nowMs
  have hdue : t.server.buf ≠ [] ∧
      t.server.silenceMs.toNat ≤ (c.nowMs - t.server.lastByteMs).toNat ∧
      (c.nowMs - t.server.lastByteMs).toNat < 2147483648 := by
    rw [h.buf, h.time hsilent.2.1]
    exact hsilent.2
  rw [if_pos hdue, h.buf] at htask
  have hverdict : SameVerdict { t.server with buf := [] } q :=
    ⟨h.verdict.slaveAddr, h.verdict.event, h.verdict.request, h.verdict.parseError,
      h.verdict.frameCount, h.verdict.errorCount, h.verdict.overflowCount⟩
  obtain ⟨hbuf, hsilence, -, -⟩ := modbusRxChunk_keeps { t.server with buf := [] } t.burst
  have hburst : (pollCall recv t c).burst = [] := by simp only [pollCall, if_pos hsilent]
  have hserver : (pollCall recv t c).server =
      modbusRxChunk { t.server with buf := [] } t.burst := by simp only [pollCall, htask]
  refine ⟨⟨?_, fun hne => absurd hburst hne, ?_, ?_, ?_, ?_⟩, ?_⟩
  · rw [hserver, hburst, hbuf]
  · rw [hburst]
    exact Nat.zero_le _
  · rw [hserver, hsilence]
    exact h.silence
  · rw [hserver]
    exact hverdict.rxChunk t.burst
  · rw [hserver, hburst, rxByteCount_modbusRxChunk]
    simp only [dmaServerStep, modbusUartEventCallback, rxByteCount_modbusRxChunk, h.rxByteCount]
    -- the bytes of the burst count twice
    rw [List.length_nil, show UInt32.ofNat 0 = 0 from rfl]
    generalize UInt32.ofNat t.burst.length = n
    generalize q.rxByteCount = m
    grind
  · have hraise : RaisesRequest t.server (modbusRxChunk { t.server with buf := [] } t.burst) ↔
        IsRequest q.slaveAddr t.burst := by
      rw [← h.verdict.slaveAddr]
      exact raisesRequest_modbusRxChunk t.server t.burst
    have hevent : (modbusUartEventCallback q (.rxChunk t.burst)).event = .request ↔
        IsRequest q.slaveAddr t.burst := event_modbusRxChunk q t.burst
    simp only [pollCall, htask, dmaServerStep, List.append_nil]
    by_cases hrequest : IsRequest q.slaveAddr t.burst
    · rw [if_pos (hraise.2 hrequest), if_pos (hevent.2 hrequest)]
    · rw [if_neg fun hc => hrequest (hraise.1 hc), if_neg fun hc => hrequest (hevent.1 hc),
        List.append_nil]

/-- Any other call that finds no byte changes nothing. -/
theorem pollCall_idle (hspan : silenceMs.toNat < 2147483648) (h : Agrees silenceMs t q)
    {c : PollCall ρ} (hbyte : (recv c.recvCtx).1 = none) (hloud : ¬ t.Silent recv c) :
    pollCall recv t c = t := by
  have htask := modbusServerTask_none (s := t.server) [] hbyte (by rwa [h.silence]) c.nowMs
  have hdue : ¬ (t.server.buf ≠ [] ∧
      t.server.silenceMs.toNat ≤ (c.nowMs - t.server.lastByteMs).toNat ∧
      (c.nowMs - t.server.lastByteMs).toNat < 2147483648) := by
    rintro ⟨hne, helapsed⟩
    rw [h.buf] at hne
    rw [h.time hne] at helapsed
    exact hloud ⟨hbyte, hne, helapsed⟩
  rw [if_neg hdue] at htask
  have hcalm := not_raisesRequest_of_frameCount (Eq.refl t.server.frameCount)
  simp only [pollCall, htask, if_neg hloud, if_neg hcalm, List.append_nil, if_true]

end Calls

/-! ## Runs -/

section Runs

variable {recv : ρ → Option UInt8 × ρ} {slaveAddr : UInt8} {silenceMs : UInt32}

/-- A step of the polled server is at most one event of the one under DMA. -/
theorem agrees_polledStep (hpos : 1 ≤ silenceMs.toNat) (hspan : silenceMs.toNat < 2147483648)
    (t : BurstTrace) (op : PolledOp ρ) (q : ModbusServer) (h : Agrees silenceMs t q)
    (hfits : FitsBuffer recv t op) :
    ∃ t', polledStep recv t op = .ok t' ∧
      Agrees silenceMs t' (after dmaServerStep q (polledEvents recv t op t')) ∧
      t'.accepted = t.accepted ++ answers dmaServerStep q (polledEvents recv t op t') := by
  cases op with
  | clear =>
      refine ⟨_, rfl, ⟨h.buf, h.time, h.fits, h.silence, ?_, h.rxByteCount⟩,
        (List.append_nil _).symm⟩
      exact ⟨h.verdict.slaveAddr, rfl, h.verdict.request, rfl, h.verdict.frameCount,
        h.verdict.errorCount, h.verdict.overflowCount⟩
  | call c =>
      refine ⟨pollCall recv t c, rfl, ?_⟩
      by_cases hsilent : t.Silent recv c
      · simp only [polledEvents, if_pos hsilent, after_cons, after_nil, answers_cons, answers_nil,
          List.append_nil]
        exact agrees_pollCall_silent hspan h hsilent
      · simp only [polledEvents, if_neg hsilent, after_nil, answers_nil, List.append_nil]
        cases hbyte : (recv c.recvCtx).1 with
        | none =>
            rw [pollCall_idle hspan h hbyte hsilent]
            exact ⟨h, rfl⟩
        | some byte => exact agrees_pollCall_some hpos hspan h hbyte hfits

/-- After any sequence of calls and cleared events in which no burst is longer than the buffer, the
polled server says what the server under DMA says after the same bursts, and it has raised a request
for the same ones. -/
theorem polled_agrees_with_dma (recv : ρ → Option UInt8 × ρ) (slaveAddr : UInt8)
    (silenceMs : UInt32) (hpos : 1 ≤ silenceMs.toNat) (hspan : silenceMs.toNat < 2147483648)
    (ops : List (PolledOp ρ))
    (hfits : StepsMeet (polledStep recv) (FitsBuffer recv) (burstStart slaveAddr silenceMs) ops) :
    ∃ t, run (polledStep recv) (burstStart slaveAddr silenceMs) ops = .ok t ∧
      Agrees silenceMs t (after dmaServerStep (modbusServerInit slaveAddr silenceMs)
        (observed (polledStep recv) (polledEvents recv) (burstStart slaveAddr silenceMs) ops)) ∧
      t.accepted = answers dmaServerStep (modbusServerInit slaveAddr silenceMs)
        (observed (polledStep recv) (polledEvents recv) (burstStart slaveAddr silenceMs) ops) :=
  run_answers (f := BurstTrace.accepted) (agrees_polledStep hpos hspan)
    (agrees_burstStart slaveAddr silenceMs) hfits

/-- A request in two pieces, a silence, and the event cleared. -/
def splitRequest : List (PolledOp (List UInt8)) :=
  [.call ⟨0, [0x01, 0x03, 0x00]⟩, .call ⟨2, [0x03, 0x00, 0x01, 0x74, 0x0A]⟩, .call ⟨7, []⟩, .clear]

/-- Under DMA it is one chunk. -/
theorem polled_agrees_with_dma_split :
    ∃ t, run (polledStep popByte) (burstStart 1 5) splitRequest = .ok t ∧
      Agrees 5 t (after dmaServerStep (modbusServerInit 1 5)
        [.chunk [0x01, 0x03, 0x00, 0x03, 0x00, 0x01, 0x74, 0x0A], .clear]) ∧
      t.accepted = [[0x01, 0x03, 0x00, 0x03, 0x00, 0x01, 0x74, 0x0A]] := by
  have hmeets : StepsMeet (polledStep popByte) (FitsBuffer popByte) (burstStart 1 5)
      splitRequest := by
    apply stepsMeet_cons_ok (by decide +kernel) rfl
    apply stepsMeet_cons_ok (by decide +kernel) rfl
    apply stepsMeet_cons_ok (by decide +kernel) rfl
    exact stepsMeet_cons_ok trivial rfl trivial
  obtain ⟨t, hrun, hagrees, haccepted⟩ :=
    polled_agrees_with_dma popByte 1 5 (by decide) (by decide) splitRequest hmeets
  have hevents : observed (polledStep popByte) (polledEvents popByte) (burstStart 1 5)
      splitRequest = [.chunk [0x01, 0x03, 0x00, 0x03, 0x00, 0x01, 0x74, 0x0A], .clear] := by
    decide +kernel
  rw [hevents] at hagrees haccepted
  exact ⟨t, hrun, hagrees, haccepted.trans (by decide +kernel)⟩

end Runs

end ClimateNode.Service
