import ClimateNode.Machine.Runs
import ClimateNode.Machine.WrapTime
import ClimateNode.Service.ServerArray

/-!
# The bytes and the counters of the polled server

A run of the server is a sequence of calls of `modbus_server_task` and of events the UART driver
delivers. `ServerTrace` keeps the bytes the task received and what it did with them. No byte is lost
(`polled_server_loses_nothing`).

The counters are those of the trace but for `rx_byte_count`: the callback counts the bytes of a
polled frame again, and a byte that overflows the array is not counted (`run_accounted`). It is
exact for as long as no call hands over a frame or overflows (`server_statistics_iff`).
-/

set_option autoImplicit false

namespace ClimateNode.Service

open ClimateNode.Machine

variable {ρ : Type}

/-! ## Traces -/

/-- What became of bytes that left the array. A frame is handed over at `nowMs`, and its last byte
was received at `lastRxMs`. -/
inductive ServerBlock where
  | handed (frame : List UInt8) (nowMs lastRxMs : UInt32)
  | discarded (block : List UInt8)
  deriving DecidableEq, Repr

def ServerBlock.bytes : ServerBlock → List UInt8
  | .handed frame _ _ => frame
  | .discarded block => block

/-- The frame the callback saw. -/
def ServerBlock.frame : ServerBlock → Option (List UInt8)
  | .handed frame _ _ => some frame
  | .discarded _ => none

/-- The server with what has happened to it: the bytes `recv` returned and the time of the last one,
the blocks that left the array, the chunks the driver delivered, and its error events. -/
structure ServerTrace where
  server : ArrayServer
  received : List UInt8
  lastRxMs : UInt32
  blocks : List ServerBlock
  chunks : List (List UInt8)
  uartErrors : Nat

/-- A call of the task, or an event of the driver. -/
inductive ServerOp (ρ : Type) where
  | task (call : PollCall ρ)
  | uart (event : UartEvent)

/-- The block a call of the task leaves. -/
def TaskOutcome.blocks (nowMs lastRxMs : UInt32) : TaskOutcome → List ServerBlock
  | .quiet => []
  | .handed frame => [.handed frame nowMs lastRxMs]
  | .overflowed block => [.discarded block]

/-- The trace after a call at `nowMs` that received `bytes`. -/
def ServerTrace.afterTask (t : ServerTrace) (nowMs : UInt32) (server : ArrayServer)
    (bytes : List UInt8) (outcome : TaskOutcome) : ServerTrace :=
  let lastRxMs := if bytes = [] then t.lastRxMs else nowMs
  { t with
    server := server
    received := t.received ++ bytes
    lastRxMs := lastRxMs
    blocks := t.blocks ++ outcome.blocks nowMs lastRxMs }

/-- One call of the task. -/
def taskStep (recv : ρ → Option UInt8 × ρ) (t : ServerTrace) (c : PollCall ρ) :
    Checked ServerTrace := do
  let r ← arrayTask (loggedRecv recv) (c.recvCtx, []) t.server c.nowMs
  return t.afterTask c.nowMs r.server r.recvCtx.2 r.outcome

/-- One event of the driver. -/
def uartStep (t : ServerTrace) (event : UartEvent) : ServerTrace :=
  let t := { t with
    server := { t.server with srv := modbusUartEventCallback t.server.srv event } }
  match event with
  | .error => { t with uartErrors := t.uartErrors + 1 }
  | .txComplete => t
  | .rxChunk data => { t with chunks := t.chunks ++ [data] }

def serverStep (recv : ρ → Option UInt8 × ρ) (t : ServerTrace) : ServerOp ρ → Checked ServerTrace
  | .task call => taskStep recv t call
  | .uart event => pure (uartStep t event)

/-- The server after `modbus_server_init`, which leaves the array as it was. -/
def serverStart (cells : Vector UInt8 modbusServerMaxFrame) (slaveAddr : UInt8)
    (silenceMs : UInt32) : ServerTrace :=
  ⟨⟨cells, 0, modbusServerInit slaveAddr silenceMs⟩, [], 0, [], [], 0⟩

/-- The bytes received are those of the blocks, in order, and the bytes in the array. A discarded
block is one byte longer than the array, and a frame is handed over after the silence time. -/
structure PolledLossless (silenceMs : UInt32) (t : ServerTrace) : Prop where
  len_le : t.server.len ≤ modbusServerMaxFrame
  received : t.received = t.blocks.flatMap ServerBlock.bytes ++ t.server.content
  discarded : ∀ block, .discarded block ∈ t.blocks → block.length = modbusServerMaxFrame + 1
  silent : 1 ≤ silenceMs.toNat → silenceMs.toNat < 2147483648 →
    ∀ frame nowMs lastRxMs, .handed frame nowMs lastRxMs ∈ t.blocks →
      silenceMs.toNat ≤ (nowMs - lastRxMs).toNat

/-- The frames among the blocks. -/
def polledFrames (blocks : List ServerBlock) : List (List UInt8) :=
  blocks.filterMap ServerBlock.frame

/-- The number of discarded blocks. -/
def discards (blocks : List ServerBlock) : Nat := blocks.countP fun block => block.frame.isNone

/-- Every frame that was processed, polled or delivered. -/
def ServerTrace.frames (t : ServerTrace) : List (List UInt8) := polledFrames t.blocks ++ t.chunks

/-- The four counters are those of the trace, modulo `2^32`. -/
structure StatsExact (slaveAddr : UInt8) (t : ServerTrace) : Prop where
  rx : t.server.srv.rxByteCount =
    UInt32.ofNat (t.received.length + t.chunks.flatten.length)
  frames : t.server.srv.frameCount =
    UInt32.ofNat (t.frames.countP fun frame => IsRequest slaveAddr frame)
  overflows : t.server.srv.overflowCount = UInt32.ofNat (discards t.blocks)
  sum : t.server.srv.frameCount + t.server.srv.errorCount =
    UInt32.ofNat (t.frames.length + discards t.blocks + t.uartErrors)

/-- The call leaves its bytes in the array: they fit, and no silence is due. -/
def LeavesBuffered (recv : ρ → Option UInt8 × ρ) (t : ServerTrace) : ServerOp ρ → Prop
  | .task c =>
      t.server.len + (supply recv 16 c.recvCtx).length ≤ modbusServerMaxFrame ∧
        ¬ Due t.server c.nowMs (supply recv 16 c.recvCtx)
  | .uart _ => True

/-! ## The bytes -/

section Bytes

variable {recv : ρ → Option UInt8 × ρ} {silenceMs nowMs lastRxMs : UInt32} {t : ServerTrace}

/-- What a call keeps: nothing is lost, the settings are those of the start, and the last byte in
the array is the last byte received. -/
structure ServerInv (slaveAddr : UInt8) (silenceMs : UInt32) (t : ServerTrace) : Prop where
  lossless : PolledLossless silenceMs t
  slaveAddr : t.server.srv.slaveAddr = slaveAddr
  silenceMs : t.server.srv.silenceMs = silenceMs
  lastByte : t.server.len ≠ 0 → t.server.srv.lastByteMs = t.lastRxMs

theorem content_nil {s : ArrayServer} (h : s.len = 0) : s.content = [] := by
  rw [ArrayServer.content, h, List.take_zero]

/-- A due frame has been silent for the silence time. -/
theorem Due.silent {s : ArrayServer} {offered : List UInt8} (h : Due s nowMs offered)
    (hlast : s.len ≠ 0 → s.srv.lastByteMs = lastRxMs) (hspan : s.srv.silenceMs.toNat < 2147483648) :
    s.srv.silenceMs.toNat ≤ (nowMs - if offered = [] then lastRxMs else nowMs).toNat := by
  obtain ⟨hpos, hdue⟩ := h
  have helapsed := ((toInt32_ge_iff hspan).1 hdue).1
  by_cases hnil : offered = []
  · rw [hnil, List.length_nil] at hpos
    rw [if_pos hnil, hlast (Nat.ne_of_gt hpos)] at helapsed
    rwa [if_pos hnil]
  · rw [if_neg hnil] at helapsed ⊢
    exact helapsed

/-- Another block at the end, when nothing is left in the array. -/
theorem PolledLossless.block {server : ArrayServer} {bytes : List UInt8} {block : ServerBlock}
    (h : PolledLossless silenceMs t) (hlen : server.len = 0)
    (hbytes : block.bytes = t.server.content ++ bytes)
    (hdiscarded : ∀ b, block = .discarded b → b.length = modbusServerMaxFrame + 1)
    (hsilent : 1 ≤ silenceMs.toNat → silenceMs.toNat < 2147483648 →
      ∀ frame nowMs lastRxMs, block = .handed frame nowMs lastRxMs →
        silenceMs.toNat ≤ (nowMs - lastRxMs).toNat) :
    PolledLossless silenceMs { t with
      server := server
      received := t.received ++ bytes
      lastRxMs := lastRxMs
      blocks := t.blocks ++ [block] } := by
  refine ⟨hlen ▸ Nat.zero_le _, ?_, ?_, ?_⟩
  · simp only [h.received, List.flatMap_append, List.flatMap_singleton, hbytes, content_nil hlen,
      List.append_assoc, List.append_nil]
  · intro b hb
    rcases List.mem_append.1 hb with hold | hnew
    · exact h.discarded b hold
    · exact hdiscarded b (List.mem_singleton.1 hnew).symm
  · intro hpos hspan frame nowMs lastRxMs hframe
    rcases List.mem_append.1 hframe with hold | hnew
    · exact h.silent hpos hspan frame nowMs lastRxMs hold
    · exact hsilent hpos hspan frame nowMs lastRxMs (List.mem_singleton.1 hnew).symm

/-- No block more: the bytes are in the array. -/
theorem PolledLossless.stored {server : ArrayServer} {bytes : List UInt8}
    (h : PolledLossless silenceMs t) (hle : server.len ≤ modbusServerMaxFrame)
    (hcontent : server.content = t.server.content ++ bytes) :
    PolledLossless silenceMs { t with
      server := server
      received := t.received ++ bytes
      lastRxMs := lastRxMs
      blocks := t.blocks ++ [] } := by
  refine ⟨hle, ?_, ?_, ?_⟩
  · simp only [h.received, List.append_nil, hcontent, List.append_assoc]
  · simpa only [List.append_nil] using h.discarded
  · simpa only [List.append_nil] using h.silent

/-- A call of the task leaves by one of its exits. -/
theorem taskStep_exit (recv : ρ → Option UInt8 × ρ) (h : t.server.len ≤ modbusServerMaxFrame)
    (c : PollCall ρ) :
    ∃ server bytes outcome,
      taskStep recv t c = .ok (t.afterTask c.nowMs server bytes outcome) ∧
        TaskExit t.server c.nowMs (supply recv 16 c.recvCtx) server bytes outcome := by
  obtain ⟨r, bytes, hr, hlog, hexit⟩ := arrayTask_exit recv c.recvCtx [] h c.nowMs
  refine ⟨r.server, bytes, r.outcome, ?_, hexit⟩
  simp only [taskStep, hr, checked_ok_bind, checked_pure, hlog, List.nil_append]

theorem modbusUartEventCallback_keeps (s : ModbusServer) (event : UartEvent) :
    (modbusUartEventCallback s event).silenceMs = s.silenceMs ∧
      (modbusUartEventCallback s event).slaveAddr = s.slaveAddr ∧
      (modbusUartEventCallback s event).lastByteMs = s.lastByteMs := by
  cases event with
  | error | txComplete => exact ⟨rfl, rfl, rfl⟩
  | rxChunk data => exact (modbusRxChunk_keeps s data).2

/-- The invariant over one exit of the task. -/
theorem ServerInv.afterTask {slaveAddr : UInt8} {server : ArrayServer} {offered bytes : List UInt8}
    {outcome : TaskOutcome} (h : ServerInv slaveAddr silenceMs t)
    (hexit : TaskExit t.server nowMs offered server bytes outcome) :
    ServerInv slaveAddr silenceMs (t.afterTask nowMs server bytes outcome) := by
  cases hexit with
  | quiet hfits hwait hlen hcontent hsrv =>
      refine ⟨h.lossless.stored (hlen.trans_le hfits) hcontent, ?_, ?_, ?_⟩
      · exact (congrArg ModbusServer.slaveAddr hsrv).trans h.slaveAddr
      · exact (congrArg ModbusServer.silenceMs hsrv).trans h.silenceMs
      · intro hne
        simp only [ServerTrace.afterTask, hsrv, storedBytes]
        split_ifs with hnil
        · rw [hnil] at hlen
          exact h.lastByte fun hzero => hne (hlen.trans (by rw [hzero]; rfl))
        · rfl
  | handed hfits hdue hlen hsrv =>
      obtain ⟨hsilence, haddr, -⟩ := modbusUartEventCallback_keeps
        (storedBytes t.server.srv nowMs offered) (.rxChunk (t.server.content ++ offered))
      refine ⟨h.lossless.block hlen rfl (fun b hb => by cases hb) ?_, ?_, ?_, ?_⟩
      · rintro - hspan frame nowMs' lastRxMs' hframe
        cases hframe
        rw [← h.silenceMs] at hspan ⊢
        exact hdue.silent h.lastByte hspan
      · exact (congrArg ModbusServer.slaveAddr hsrv).trans (haddr.trans h.slaveAddr)
      · exact (congrArg ModbusServer.silenceMs hsrv).trans (hsilence.trans h.silenceMs)
      · exact fun hne => absurd hlen hne
  | overflowed _ lastByteMs hover hblock hlen hsrv =>
      refine ⟨h.lossless.block hlen rfl ?_ ?_, ?_, ?_, ?_⟩
      · rintro b hb
        cases hb
        exact hblock
      · rintro - - frame nowMs' lastRxMs' hframe
        cases hframe
      · exact (congrArg ModbusServer.slaveAddr hsrv).trans h.slaveAddr
      · exact (congrArg ModbusServer.silenceMs hsrv).trans h.silenceMs
      · exact fun hne => absurd hlen hne

/-- An event of the driver does not touch the array. -/
theorem ServerInv.uartStep {slaveAddr : UInt8} (h : ServerInv slaveAddr silenceMs t)
    (event : UartEvent) : ServerInv slaveAddr silenceMs (uartStep t event) := by
  obtain ⟨hsilence, haddr, hlast⟩ := modbusUartEventCallback_keeps t.server.srv event
  obtain ⟨⟨hle, hreceived, hdiscarded, hsilent⟩, hslave, hset, hbyte⟩ := h
  cases event <;>
    exact ⟨⟨hle, hreceived, hdiscarded, hsilent⟩, haddr.trans hslave, hsilence.trans hset,
      fun hne => hlast.trans (hbyte hne)⟩

theorem serverInv_start (cells : Vector UInt8 modbusServerMaxFrame) (slaveAddr : UInt8)
    (silenceMs : UInt32) : ServerInv slaveAddr silenceMs (serverStart cells slaveAddr silenceMs) :=
  ⟨⟨Nat.zero_le _, rfl, nofun, nofun⟩, rfl, rfl, fun hne => absurd rfl hne⟩

end Bytes

/-! ## The counters -/

section Counters

variable {recv : ρ → Option UInt8 × ρ} {slaveAddr : UInt8} {silenceMs nowMs : UInt32}
  {t : ServerTrace} {s s' : ModbusServer}

/-- What a piece of code adds to the counters: bytes, accepted requests, overflows, and requests and
errors together. -/
structure Adds (bytes requests overflows both : Nat) (before after : ModbusServer) : Prop where
  bytes : after.rxByteCount = before.rxByteCount + UInt32.ofNat bytes
  requests : after.frameCount = before.frameCount + UInt32.ofNat requests
  overflows : after.overflowCount = before.overflowCount + UInt32.ofNat overflows
  both : after.frameCount + after.errorCount =
    before.frameCount + before.errorCount + UInt32.ofNat both

theorem adds_storedBytes (s : ModbusServer) (nowMs : UInt32) (bytes : List UInt8) :
    Adds bytes.length 0 0 0 s (storedBytes s nowMs bytes) :=
  ⟨rfl, (UInt32.add_zero _).symm, (UInt32.add_zero _).symm, (UInt32.add_zero _).symm⟩

theorem adds_overflowedBytes (s : ModbusServer) (lastByteMs : UInt32) (n : Nat) :
    Adds (n - 1) 0 1 1 s (overflowedBytes s lastByteMs n) :=
  ⟨rfl, (UInt32.add_zero _).symm, rfl, (UInt32.add_assoc _ _ _).symm⟩

/-- A chunk is one request more or one error more. -/
theorem adds_modbusRxChunk (s : ModbusServer) (data : List UInt8) :
    Adds data.length (if IsRequest s.slaveAddr data then 1 else 0) 0 1 s
      (modbusRxChunk s data) := by
  have hparse := modbusParseRequest_eq_ok_iff data s.slaveAddr s.request
  by_cases hrequest : IsRequest s.slaveAddr data
  · simp only [modbusRxChunk, if_pos hrequest, if_pos (hparse.2 hrequest)]
    refine ⟨rfl, rfl, (UInt32.add_zero _).symm, ?_⟩
    rw [UInt32.add_assoc, UInt32.add_comm 1, ← UInt32.add_assoc]
    rfl
  · simp only [modbusRxChunk, if_neg hrequest, if_neg fun hok => hrequest (hparse.1 hok)]
    exact ⟨rfl, (UInt32.add_zero _).symm, (UInt32.add_zero _).symm, (UInt32.add_assoc _ _ _).symm⟩

theorem Adds.trans {s'' : ModbusServer} {a b c d a' b' c' d' : Nat} (h : Adds a b c d s s')
    (h' : Adds a' b' c' d' s' s'') : Adds (a + a') (b + b') (c + c') (d + d') s s'' := by
  refine ⟨?_, ?_, ?_, ?_⟩
  · rw [h'.bytes, h.bytes, UInt32.add_assoc, UInt32.ofNat_add]
  · rw [h'.requests, h.requests, UInt32.add_assoc, UInt32.ofNat_add]
  · rw [h'.overflows, h.overflows, UInt32.add_assoc, UInt32.ofNat_add]
  · rw [h'.both, h.both, UInt32.add_assoc, UInt32.ofNat_add]

/-- The bytes of the polled frames. -/
def ServerTrace.handedBytes (t : ServerTrace) : Nat :=
  (polledFrames t.blocks).flatten.length

/-- The counters of every trace. A polled frame is counted once by the loop and once by the
callback, and an overflow leaves one byte out. -/
structure Accounted (slaveAddr : UInt8) (t : ServerTrace) : Prop where
  bytes : t.server.srv.rxByteCount + UInt32.ofNat (discards t.blocks) =
    UInt32.ofNat (t.received.length + t.chunks.flatten.length + t.handedBytes)
  requests : t.server.srv.frameCount =
    UInt32.ofNat (t.frames.countP fun frame => IsRequest slaveAddr frame)
  overflows : t.server.srv.overflowCount = UInt32.ofNat (discards t.blocks)
  both : t.server.srv.frameCount + t.server.srv.errorCount =
    UInt32.ofNat (t.frames.length + discards t.blocks + t.uartErrors)

/-- The trace has `bytes` more of everything the counters count. -/
theorem Accounted.adds {t' : ServerTrace} {a b c d : Nat} (h : Accounted slaveAddr t)
    (hadds : Adds a b c d t.server.srv t'.server.srv)
    (hbytes : t'.received.length + t'.chunks.flatten.length + t'.handedBytes + discards t.blocks =
      t.received.length + t.chunks.flatten.length + t.handedBytes + a + discards t'.blocks)
    (hrequests : (t'.frames.countP fun frame => IsRequest slaveAddr frame) =
      (t.frames.countP fun frame => IsRequest slaveAddr frame) + b)
    (hoverflows : discards t'.blocks = discards t.blocks + c)
    (hboth : t'.frames.length + discards t'.blocks + t'.uartErrors =
      t.frames.length + discards t.blocks + t.uartErrors + d) : Accounted slaveAddr t' := by
  refine ⟨?_, ?_, ?_, ?_⟩
  · have hold := h.bytes
    have hcount := congrArg UInt32.ofNat hbytes
    rw [UInt32.ofNat_add, UInt32.ofNat_add _ (discards t'.blocks), UInt32.ofNat_add _ a,
      ← hold] at hcount
    rw [hadds.bytes]
    grind
  · rw [hadds.requests, h.requests, hrequests, UInt32.ofNat_add]
  · rw [hadds.overflows, h.overflows, hoverflows, UInt32.ofNat_add]
  · rw [hadds.both, h.both, hboth, UInt32.ofNat_add _ d]

/-- A frame among those that were processed. -/
theorem requests_snoc (slaveAddr : UInt8) (frames rest : List (List UInt8)) (frame : List UInt8) :
    ((frames ++ frame :: rest).countP fun frame => IsRequest slaveAddr frame) =
      ((frames ++ rest).countP fun frame => IsRequest slaveAddr frame) +
        if IsRequest slaveAddr frame then 1 else 0 := by
  simp only [List.countP_append, List.countP_cons, decide_eq_true_eq]
  exact (Nat.add_assoc _ _ _).symm

section Blocks

variable (blocks : List ServerBlock) (frame block : List UInt8) (nowMs lastRxMs : UInt32)

@[simp] theorem polledFrames_handed :
    polledFrames (blocks ++ [.handed frame nowMs lastRxMs]) = polledFrames blocks ++ [frame] :=
  List.filterMap_append

@[simp] theorem polledFrames_discarded :
    polledFrames (blocks ++ [.discarded block]) = polledFrames blocks :=
  List.filterMap_append.trans (List.append_nil _)

@[simp] theorem discards_handed :
    discards (blocks ++ [.handed frame nowMs lastRxMs]) = discards blocks :=
  List.countP_append

@[simp] theorem discards_discarded :
    discards (blocks ++ [.discarded block]) = discards blocks + 1 :=
  List.countP_append

end Blocks

/-- The counters over one exit of the task. -/
theorem Accounted.afterTask {server : ArrayServer} {offered bytes : List UInt8}
    {outcome : TaskOutcome} (h : Accounted slaveAddr t) (haddr : t.server.srv.slaveAddr = slaveAddr)
    (hle : t.server.len ≤ modbusServerMaxFrame)
    (hexit : TaskExit t.server nowMs offered server bytes outcome) :
    Accounted slaveAddr (t.afterTask nowMs server bytes outcome) := by
  cases hexit with
  | quiet hfits hwait hlen hcontent hsrv =>
      have hadds := adds_storedBytes t.server.srv nowMs offered
      rw [← hsrv] at hadds
      refine h.adds hadds ?_ ?_ ?_ ?_ <;>
        simp only [ServerTrace.afterTask, TaskOutcome.blocks, ServerTrace.frames,
          ServerTrace.handedBytes, List.append_nil, List.length_append, Nat.add_zero]
      omega
  | handed hfits hdue hlen hsrv =>
      have hadds := (adds_storedBytes t.server.srv nowMs offered).trans
        (adds_modbusRxChunk (storedBytes t.server.srv nowMs offered) (t.server.content ++ offered))
      rw [show modbusRxChunk _ _ = server.srv from hsrv.symm] at hadds
      have haddr' : (storedBytes t.server.srv nowMs offered).slaveAddr = slaveAddr := haddr
      refine h.adds hadds ?_ ?_ ?_ ?_ <;>
        simp only [ServerTrace.afterTask, TaskOutcome.blocks, ServerTrace.frames,
          ServerTrace.handedBytes, polledFrames_handed, discards_handed, List.flatten_append,
          List.flatten_singleton, List.length_append, List.length_singleton, Nat.add_zero]
      · omega
      · rw [haddr', List.append_assoc, List.singleton_append, requests_snoc, Nat.zero_add]
      · omega
  | overflowed _ lastByteMs hover hblock hlen hsrv =>
      have hadds := adds_overflowedBytes t.server.srv lastByteMs bytes.length
      rw [← hsrv] at hadds
      -- the last byte of the block is the one that is not counted
      have hpos : 0 < bytes.length := by
        rw [List.length_append, length_content hle] at hblock
        omega
      refine h.adds hadds ?_ ?_ ?_ ?_ <;>
        simp only [ServerTrace.afterTask, TaskOutcome.blocks, ServerTrace.frames,
          ServerTrace.handedBytes, polledFrames_discarded, discards_discarded, List.length_append,
          Nat.add_zero]
      · omega
      · omega

/-- The counters over one event of the driver. -/
theorem Accounted.uartStep (h : Accounted slaveAddr t) (haddr : t.server.srv.slaveAddr = slaveAddr)
    (event : UartEvent) : Accounted slaveAddr (uartStep t event) := by
  cases event with
  | txComplete => exact h
  | error =>
      have hadds : Adds 0 0 0 1 t.server.srv (modbusUartEventCallback t.server.srv .error) :=
        ⟨(UInt32.add_zero _).symm, (UInt32.add_zero _).symm, (UInt32.add_zero _).symm,
          (UInt32.add_assoc _ _ _).symm⟩
      exact h.adds hadds rfl rfl rfl rfl
  | rxChunk data =>
      refine h.adds (adds_modbusRxChunk t.server.srv data) ?_ ?_ rfl ?_ <;>
        simp only [Service.uartStep, ServerTrace.frames, ServerTrace.handedBytes,
          List.flatten_append, List.flatten_singleton, List.length_append, List.length_singleton]
      · omega
      · rw [← List.append_assoc, requests_snoc, List.append_nil, haddr]
      · omega

theorem accounted_start (cells : Vector UInt8 modbusServerMaxFrame) (slaveAddr : UInt8)
    (silenceMs : UInt32) : Accounted slaveAddr (serverStart cells slaveAddr silenceMs) :=
  ⟨rfl, rfl, rfl, rfl⟩

/-- Every step keeps the account. -/
theorem serverStep_accounted (recv : ρ → Option UInt8 × ρ)
    (h : ServerInv slaveAddr silenceMs t ∧ Accounted slaveAddr t) (op : ServerOp ρ) :
    ∃ t', serverStep recv t op = .ok t' ∧ ServerInv slaveAddr silenceMs t' ∧
      Accounted slaveAddr t' := by
  obtain ⟨hinv, hcount⟩ := h
  cases op with
  | task c =>
      obtain ⟨server, bytes, outcome, hstep, hexit⟩ := taskStep_exit recv hinv.lossless.len_le c
      exact ⟨_, hstep, hinv.afterTask hexit,
        hcount.afterTask hinv.slaveAddr hinv.lossless.len_le hexit⟩
  | uart event => exact ⟨_, rfl, hinv.uartStep event, hcount.uartStep hinv.slaveAddr event⟩

/-- In every run, the requests, the overflows and the errors are counted exactly, and the bytes with
those of the polled frames twice and without one for each overflow. -/
theorem run_accounted (recv : ρ → Option UInt8 × ρ) (cells : Vector UInt8 modbusServerMaxFrame)
    (slaveAddr : UInt8) (silenceMs : UInt32) (ops : List (ServerOp ρ)) :
    ∃ t, run (serverStep recv) (serverStart cells slaveAddr silenceMs) ops = .ok t ∧
      Accounted slaveAddr t := by
  obtain ⟨t, hrun, -, hcount⟩ := run_of_invariant (A := fun _ => True)
    ⟨serverInv_start cells slaveAddr silenceMs, accounted_start cells slaveAddr silenceMs⟩
    (fun t op h _ => serverStep_accounted recv h op) ops fun _ _ => trivial
  exact ⟨t, hrun, hcount⟩

/-- With the other counters in order, `rx_byte_count` decides. -/
theorem statsExact_iff (h : Accounted slaveAddr t) :
    StatsExact slaveAddr t ↔ UInt32.ofNat t.handedBytes = UInt32.ofNat (discards t.blocks) := by
  have hbytes := h.bytes
  rw [UInt32.ofNat_add] at hbytes
  constructor
  · intro hexact
    rw [hexact.rx] at hbytes
    exact (UInt32.add_right_inj _).1 hbytes.symm
  · intro hsame
    rw [hsame] at hbytes
    exact ⟨(UInt32.add_left_inj _).1 hbytes, h.requests, h.overflows, h.both⟩

/-- Two counts that differ by a few are different modulo `2^32`. -/
theorem ofNat_add_ne {n : Nat} (hpos : 0 < n) (hlt : n < 4294967296) (a : UInt32) :
    a + UInt32.ofNat n ≠ a := by
  intro hsame
  have hzero : UInt32.ofNat n = 0 :=
    (UInt32.add_right_inj a).1 (hsame.trans (UInt32.add_zero a).symm)
  have hmod := congrArg UInt32.toNat hzero
  rw [UInt32.toNat_ofNat', Nat.mod_eq_of_lt hlt] at hmod
  exact Nat.ne_of_gt hpos hmod

/-- A call that leaves its bytes in the array keeps the statistics exact. Any other call leaves a
block, and its bytes are counted twice or one of them is not counted. -/
theorem statsExact_afterTask_iff {server : ArrayServer} {offered bytes : List UInt8}
    {outcome : TaskOutcome} (hcount : Accounted slaveAddr t)
    (hcount' : Accounted slaveAddr (t.afterTask nowMs server bytes outcome))
    (hexact : StatsExact slaveAddr t) (hle : t.server.len ≤ modbusServerMaxFrame)
    (hexit : TaskExit t.server nowMs offered server bytes outcome) :
    StatsExact slaveAddr (t.afterTask nowMs server bytes outcome) ↔
      t.server.len + offered.length ≤ modbusServerMaxFrame ∧ ¬ Due t.server nowMs offered := by
  rw [statsExact_iff hcount']
  have hsame := (statsExact_iff hcount).1 hexact
  cases hexit with
  | quiet hfits hwait hlen hcontent hsrv =>
      refine iff_of_true ?_ ⟨hfits, hwait⟩
      simpa only [ServerTrace.afterTask, TaskOutcome.blocks, ServerTrace.handedBytes,
        List.append_nil] using hsame
  | handed hfits hdue hlen hsrv =>
      refine iff_of_false ?_ fun h => h.2 hdue
      rw [modbusServerMaxFrame] at hfits
      have hpos := hdue.1
      have hbytes : (t.afterTask nowMs server offered
            (.handed (t.server.content ++ offered))).handedBytes =
          t.handedBytes + (t.server.len + offered.length) := by
        simp only [ServerTrace.afterTask, TaskOutcome.blocks, ServerTrace.handedBytes,
          polledFrames_handed, List.flatten_append, List.flatten_singleton, List.length_append,
          length_content hle]
      rw [hbytes, UInt32.ofNat_add, hsame, ServerTrace.afterTask, TaskOutcome.blocks,
        discards_handed]
      exact ofNat_add_ne hpos (by omega) _
  | overflowed _ lastByteMs hover hblock hlen hsrv =>
      refine iff_of_false ?_ fun h => Nat.not_le_of_lt hover h.1
      simp only [ServerTrace.afterTask, TaskOutcome.blocks, ServerTrace.handedBytes,
        polledFrames_discarded, discards_discarded, UInt32.ofNat_add]
      intro hlost
      exact ofNat_add_ne Nat.one_pos (by decide) _ (hlost.symm.trans hsame)

/-- An event of the driver keeps the statistics exact. -/
theorem StatsExact.uartStep (hexact : StatsExact slaveAddr t) (hcount : Accounted slaveAddr t)
    (haddr : t.server.srv.slaveAddr = slaveAddr) (event : UartEvent) :
    StatsExact slaveAddr (uartStep t event) := by
  rw [statsExact_iff (hcount.uartStep haddr event)]
  cases event <;> exact (statsExact_iff hcount).1 hexact

/-- A step keeps the statistics exact exactly when it leaves its bytes in the array. -/
theorem statsExact_step_iff (hinv : ServerInv slaveAddr silenceMs t)
    (hcount : Accounted slaveAddr t) (hexact : StatsExact slaveAddr t) {op : ServerOp ρ}
    {t' : ServerTrace} (hstep : serverStep recv t op = .ok t') :
    StatsExact slaveAddr t' ↔ LeavesBuffered recv t op := by
  cases op with
  | task c =>
      have hle := hinv.lossless.len_le
      obtain ⟨server, bytes, outcome, hstep', hexit⟩ := taskStep_exit recv hle c
      obtain rfl := Except.ok.inj (hstep.symm.trans hstep')
      have hcount' := hcount.afterTask hinv.slaveAddr hle hexit
      exact statsExact_afterTask_iff hcount hcount' hexact hle hexit
  | uart event =>
      obtain rfl := Except.ok.inj hstep
      exact iff_of_true (hexact.uartStep hcount hinv.slaveAddr event) trivial

/-- In every run, the statistics are exact up to the first call that hands over a frame or
overflows, and no longer. -/
theorem server_statistics_iff (recv : ρ → Option UInt8 × ρ)
    (cells : Vector UInt8 modbusServerMaxFrame) (slaveAddr : UInt8) (silenceMs : UInt32)
    (ops : List (ServerOp ρ)) :
    AlwaysAlong (serverStep recv) (StatsExact slaveAddr)
        (serverStart cells slaveAddr silenceMs) ops ↔
      StepsMeet (serverStep recv) (LeavesBuffered recv)
        (serverStart cells slaveAddr silenceMs) ops := by
  refine alwaysAlong_iff_stepsMeet
    (I := fun t => (ServerInv slaveAddr silenceMs t ∧ Accounted slaveAddr t) ∧
      StatsExact slaveAddr t) (fun t h => h.2) ?_ ?_ ?_
  · rintro t op ⟨h, hexact⟩ hleaves
    obtain ⟨t', hstep, h'⟩ := serverStep_accounted recv h op
    exact ⟨t', hstep, h', (statsExact_step_iff h.1 h.2 hexact hstep).2 hleaves⟩
  · rintro t op t' ⟨h, hexact⟩ hbad hstep hexact'
    exact hbad ((statsExact_step_iff h.1 h.2 hexact hstep).1 hexact')
  · exact ⟨⟨serverInv_start cells slaveAddr silenceMs, accounted_start cells slaveAddr silenceMs⟩,
      rfl, rfl, rfl, rfl⟩

/-- One request of eight bytes, and a silence of 5 ms: `rx_byte_count` is 16. -/
theorem server_statistics_single_request :
    ¬ AlwaysAlong (serverStep popByte) (StatsExact 1)
        (serverStart (Vector.replicate modbusServerMaxFrame 0) 1 5)
        (singleRequest.map .task) := by
  intro halong
  obtain ⟨t, hrun, hexact⟩ := alwaysAlong_iff_prefix.1 halong _ List.prefix_rfl
  have hcounts : (run (serverStep popByte)
      (serverStart (Vector.replicate modbusServerMaxFrame 0) 1 5)
      (singleRequest.map .task)).toOption.map
        (fun t => (t.server.srv.rxByteCount, t.received.length + t.chunks.flatten.length)) =
      some (16, 8) := by decide +kernel
  rw [hrun] at hcounts
  obtain ⟨hrx, hbytes⟩ := Prod.mk.inj (Option.some.inj hcounts)
  have hwrong := hexact.rx
  rw [hrx, hbytes] at hwrong
  exact absurd hwrong (by decide)

end Counters

end ClimateNode.Service
