import ClimateNode.App.Replies
import ClimateNode.Service.RegisterBuffer
import ClimateNode.Service.ResponseBuilder

/-!
# The response buffer

`handle_modbus_request` puts its response together in a local array of 260 bytes that starts with
whatever the stack held, and a failed register read leaves part of the array written.
`handleModbusRequestInto` is the handler on that array, access by access. It returns for every
request and leaves the bytes of `handleModbusRequest` at the start of the array
(`handleModbusRequestInto_starts`), so the old contents never reach the line. What is transmitted
for an accepted frame is well formed (`replies_well_formed`).
-/

set_option autoImplicit false

namespace ClimateNode.Application

open ClimateNode.Core ClimateNode.Service ClimateNode.Machine ClimateNode.Platforms

/-! ## The handler on its array -/

section Handler

variable {F : Type}

/-- The branch of `handle_modbus_request` for function 0x03. -/
def readResponseInto (regs : ModbusRegMap) (req : ModbusRequest)
    (respBuf : Vector UInt8 respBufSize) : Checked (Nat × Vector UInt8 respBufSize) :=
  match req.data with
  | [d0, d1, d2, d3] => do
      let startAddr := be16 d0 d1
      let quantity := be16 d2 d3
      if quantity = 0 ∨ quantity > 125 then
        modbusBuildExceptionInto req.slaveAddr 0x03 modbusExIllegalDataVal respBuf
      else
        let byteCount := quantity.toNat * 2
        if respBufSize < 5 + byteCount then
          modbusBuildExceptionInto req.slaveAddr 0x03 modbusExSlaveDeviceFail respBuf
        else
          let respBuf ← writeAt respBuf 0 req.slaveAddr
          let respBuf ← writeAt respBuf 1 0x03
          let respBuf ← writeAt respBuf 2 (UInt8.ofNat byteCount)
          let r ← mbRegsReadInto regs startAddr quantity respBuf 3 byteCount
          -- the exception goes over the registers read before the failure
          if !r.1 then modbusBuildExceptionInto req.slaveAddr 0x03 modbusExIllegalDataAddr r.2
          else closeFrame r.2 (3 + byteCount)
  | _ => modbusBuildExceptionInto req.slaveAddr 0x03 modbusExIllegalDataVal respBuf

/-- The branch of `handle_modbus_request` for function 0x06. -/
def handleWriteInto (d : FlashDriver F) (n : Node F) (req : ModbusRequest)
    (respBuf : Vector UInt8 respBufSize) : Checked (Node F × Nat × Vector UInt8 respBufSize) :=
  match req.data with
  | [d0, d1, d2, d3] =>
      let regAddr := be16 d0 d1
      let value := be16 d2 d3
      match mbRegsWriteSingle n.regs regAddr value with
      | none => do
          let r ← modbusBuildExceptionInto req.slaveAddr 0x06 modbusExIllegalDataAddr respBuf
          return (n, r)
      | some regs => do
          let n := { n with regs := regs, sys := applyModbusWriteToApp d n.sys regAddr value }
          let respBuf ← writeAt respBuf 0 req.slaveAddr
          let respBuf ← writeAt respBuf 1 0x06
          let respBuf ← writeAt respBuf 2 d0
          let respBuf ← writeAt respBuf 3 d1
          let respBuf ← writeAt respBuf 4 d2
          let respBuf ← writeAt respBuf 5 d3
          let r ← closeFrame respBuf 6
          return (n, r)
  | _ => do
      let r ← modbusBuildExceptionInto req.slaveAddr 0x06 modbusExIllegalDataVal respBuf
      return (n, r)

/-- `handle_modbus_request` with its array: the node, the response length and the array. -/
def handleModbusRequestInto (d : FlashDriver F) (n : Node F) (nowMs : UInt32) (req : ModbusRequest)
    (respBuf : Vector UInt8 respBufSize) : Checked (Node F × Nat × Vector UInt8 respBufSize) := do
  let n := syncRegisters n nowMs
  if req.function = 0x03 then
    let r ← readResponseInto n.regs req respBuf
    return (n, r)
  else if req.function = 0x06 then handleWriteInto d n req respBuf
  else
    let r ← modbusBuildExceptionInto req.slaveAddr req.function modbusExIllegalFunc respBuf
    return (n, r)

/-- An array computation that leaves the bytes `resp` at the start of the array, and their length.
-/
def Leaves (x : Checked (Nat × Vector UInt8 respBufSize)) (resp : List UInt8) : Prop :=
  ∃ respBuf, x = .ok (resp.length, respBuf) ∧ Starts respBuf resp

theorem leaves_exception (req : ModbusRequest) (function code : UInt8)
    (respBuf : Vector UInt8 respBufSize) :
    Leaves (modbusBuildExceptionInto req.slaveAddr function code respBuf)
      (exceptionResponse req function code) :=
  modbusBuildExceptionInto_starts req.slaveAddr function code respBuf (by decide)

/-- A closed frame is its body and the checksum. -/
theorem leaves_closeFrame {respBuf : Vector UInt8 respBufSize} {body : List UInt8}
    (h : Starts respBuf body) (len : Nat) (hlen : body.length = len)
    (hroom : len + 2 ≤ respBufSize) :
    Leaves (closeFrame respBuf len) (body ++ crcTail (modbusCrc16 body)) := by
  obtain ⟨respBuf', hclose, hstarts⟩ := closeFrame_starts h len hlen hroom
  refine ⟨respBuf', ?_, hstarts⟩
  rw [hclose, List.length_append, hlen]
  rfl

theorem readResponseInto_leaves (regs : ModbusRegMap) (req : ModbusRequest)
    (respBuf : Vector UInt8 respBufSize) :
    Leaves (readResponseInto regs req respBuf) (readResponse regs req) := by
  rcases hdata : req.data with _ | ⟨d0, _ | ⟨d1, _ | ⟨d2, _ | ⟨d3, _ | ⟨d4, rest⟩⟩⟩⟩⟩
  case cons.cons.cons.cons.nil =>
    simp only [readResponseInto, readResponse, hdata]
    split_ifs with hq hsize
    · exact leaves_exception req 0x03 _ respBuf
    · exact leaves_exception req 0x03 _ respBuf
    · -- header, registers, checksum
      obtain ⟨b₁, b₂, b₃, h₁, h₂, h₃, hs₃⟩ := writeHeader_starts respBuf (by decide)
        req.slaveAddr 0x03 (UInt8.ofNat ((be16 d2 d3).toNat * 2))
      obtain ⟨b₄, h₄, -, hs₄⟩ := mbRegsReadInto_spec regs (be16 d0 d1) (be16 d2 d3) 3
        ((be16 d2 d3).toNat * 2) hs₃ rfl (by omega)
      simp only [h₁, h₂, h₃, h₄, checked_ok_bind]
      cases hread : mbRegsRead regs (be16 d0 d1) (be16 d2 d3) ((be16 d2 d3).toNat * 2) with
      | none => exact leaves_exception req 0x03 _ b₄
      | some payload =>
          have hlen := length_of_mbRegsRead hread
          exact leaves_closeFrame (hs₄ payload hread) _ (by simp [hlen]; omega) (by omega)
  -- without four bytes of data there is no address and quantity
  all_goals
    simp only [readResponseInto, readResponse, hdata]
    exact leaves_exception req 0x03 _ respBuf

/-- The handler of a write leaves the node and the response of `handleWrite`. -/
theorem handleWriteInto_starts (d : FlashDriver F) (n : Node F) (req : ModbusRequest)
    (respBuf : Vector UInt8 respBufSize) :
    ∃ respBuf', handleWriteInto d n req respBuf =
        .ok ((handleWrite d n req).1, (handleWrite d n req).2.length, respBuf') ∧
      Starts respBuf' (handleWrite d n req).2 := by
  rcases hdata : req.data with _ | ⟨d0, _ | ⟨d1, _ | ⟨d2, _ | ⟨d3, _ | ⟨d4, rest⟩⟩⟩⟩⟩
  case cons.cons.cons.cons.nil =>
    simp only [handleWriteInto, handleWrite, hdata]
    cases hregs : mbRegsWriteSingle n.regs (be16 d0 d1) (be16 d2 d3) with
    | none =>
        obtain ⟨b, hb, hs⟩ := leaves_exception req 0x06 modbusExIllegalDataAddr respBuf
        exact ⟨b, by simp only [hb, checked_ok_bind, checked_pure], hs⟩
    | some regs =>
        dsimp only
        obtain ⟨b₁, b₂, b₃, h₁, h₂, h₃, hs₃⟩ := writeHeader_starts respBuf (by decide)
          req.slaveAddr 0x06 d0
        obtain ⟨b₄, h₄, hs₄⟩ := writeAt_starts hs₃ (i := 3) rfl (by decide) d1
        obtain ⟨b₅, h₅, hs₅⟩ := writeAt_starts hs₄ (i := 4) rfl (by decide) d2
        obtain ⟨b₆, h₆, hs₆⟩ := writeAt_starts hs₅ (i := 5) rfl (by decide) d3
        have hbody : Starts b₆ [req.slaveAddr, 0x06, d0, d1, d2, d3] := hs₆
        obtain ⟨b₇, h₇, hs₇⟩ := leaves_closeFrame hbody 6 rfl (by decide)
        refine ⟨b₇, ?_, hs₇⟩
        rw [h₁, checked_ok_bind, h₂, checked_ok_bind, h₃, checked_ok_bind, h₄, checked_ok_bind,
          h₅, checked_ok_bind, h₆, checked_ok_bind, h₇, checked_ok_bind, checked_pure]
  all_goals
    obtain ⟨b, hb, hs⟩ := leaves_exception req 0x06 modbusExIllegalDataVal respBuf
    simp only [handleWriteInto, handleWrite, hdata]
    exact ⟨b, by simp only [hb, checked_ok_bind, checked_pure], hs⟩

/-- Whatever the array held, the handler leaves the node of `handleModbusRequest` and its response
at the start of the array. -/
theorem handleModbusRequestInto_starts (d : FlashDriver F) (n : Node F) (nowMs : UInt32)
    (req : ModbusRequest) (respBuf : Vector UInt8 respBufSize) :
    ∃ respBuf', handleModbusRequestInto d n nowMs req respBuf =
        .ok ((handleModbusRequest d n nowMs req).1, (handleModbusRequest d n nowMs req).2.length,
          respBuf') ∧
      Starts respBuf' (handleModbusRequest d n nowMs req).2 := by
  simp only [handleModbusRequestInto, handleModbusRequest]
  split_ifs with hread hwrite
  · obtain ⟨b, hb, hs⟩ := readResponseInto_leaves (syncRegisters n nowMs).regs req respBuf
    exact ⟨b, by rw [hb]; rfl, hs⟩
  · exact handleWriteInto_starts d (syncRegisters n nowMs) req respBuf
  · obtain ⟨b, hb, hs⟩ := leaves_exception req req.function modbusExIllegalFunc respBuf
    exact ⟨b, by rw [hb]; rfl, hs⟩

end Handler

/-! ## What is transmitted -/

/-- An exception for the request frame: five bytes, the function with bit 7 set. -/
def IsExceptionReply (frame resp : List UInt8) : Prop :=
  resp.length = 5 ∧ resp.getD 1 0 = frame.getD 1 0 ||| 0x80

/-- The normal reply to a read: what `modbus_build_response` makes of the byte count and the bytes
that `mb_regs_read` delivers. -/
structure IsReadReply (regs : ModbusRegMap) (slaveAddr : UInt8) (startAddr quantity : UInt16)
    (resp : List UInt8) (byteCount : UInt8) (regData : Vector UInt8 (quantity.toNat * 2)) :
    Prop where
  read : ∀ out : Vector UInt8 (quantity.toNat * 2),
    mbRegsReadInto regs startAddr quantity out 0 (quantity.toNat * 2) = .ok (true, regData)
  byteCount_eq : byteCount.toNat = 2 * quantity.toNat
  length_eq : resp.length = 5 + 2 * quantity.toNat
  built : ∀ (outCap : Nat) (outBuf : Vector UInt8 outCap), 5 + 2 * quantity.toNat ≤ outCap →
    builtFrame slaveAddr 0x03 (#v[byteCount] ++ regData) outBuf = .ok resp

/-- A response to the accepted request frame, with the register map it is answered from. -/
structure WellFormedReply (regs : ModbusRegMap) (frame resp : List UInt8) : Prop where
  valid : modbusFrameHasValidCrc resp = true
  length_mem : 5 ≤ resp.length ∧ resp.length ≤ 256
  address : resp.getD 0 0 = frame.getD 0 0
  function : resp.getD 1 0 = frame.getD 1 0 ∨ resp.getD 1 0 = frame.getD 1 0 ||| 0x80
  kind : IsExceptionReply frame resp ∨
    (frame.getD 1 0 = 0x03 ∧ ∃ byteCount regData,
      IsReadReply regs (frame.getD 0 0) (be16 (frame.getD 2 0) (frame.getD 3 0))
        (be16 (frame.getD 4 0) (frame.getD 5 0)) resp byteCount regData) ∨
    (frame.getD 1 0 = 0x06 ∧ frame.length = 8 ∧ resp = frame)

/-- An accepted frame is the response-shaped frame of its request. -/
theorem exists_request {frame : List UInt8} {ownSlaveAddr : UInt8} {out : ModbusRequest}
    (hok : (modbusParseRequest frame ownSlaveAddr out).1 = .ok) :
    ∃ a f d0 d1 d2 d3, frame = responseBytes a f [d0, d1, d2, d3] ∧ (f = 0x03 ∨ f = 0x06) ∧
      (modbusParseRequest frame ownSlaveAddr out).2 = ⟨a, f, [d0, d1, d2, d3]⟩ := by
  obtain ⟨hlen, hvalid, haddr, hfunc⟩ := (modbusParseRequest_eq_ok_iff _ _ _).1 hok
  obtain ⟨payload, hframe⟩ := exists_responseBytes hlen hvalid
  have hreq := congrArg Prod.snd (modbusParseRequest_responseBytes payload haddr hfunc out)
  rw [← hframe] at hreq
  have hfour : payload.toList.length = 4 := Vector.length_toList
  match hbytes : payload.toList, hfour with
  | [d0, d1, d2, d3], _ =>
      rw [hbytes] at hframe hreq
      exact ⟨_, _, d0, d1, d2, d3, hframe, hfunc, hreq⟩

section Replies

variable {F : Type}

/-- An exception is well formed, for every request and code. -/
theorem wellFormed_exception (regs : ModbusRegMap) (a f code : UInt8) (data : List UInt8) :
    WellFormedReply regs (responseBytes a f data)
      (exceptionResponse ⟨a, f, data⟩ f code) := by
  have hlen : (exceptionResponse ⟨a, f, data⟩ f code).length = 5 := rfl
  refine ⟨?_, by omega, rfl, Or.inr rfl, Or.inl ⟨rfl, rfl⟩⟩
  exact (modbusFrameHasValidCrc_iff _).2 ⟨[a, f ||| 0x80, code], Nat.succ_pos 2, rfl⟩

/-- The normal answer to a read is the frame of the byte count and the registers. -/
theorem exists_isReadReply {regs : ModbusRegMap} (a : UInt8) {startAddr quantity : UInt16}
    {payload : List UInt8}
    (hread : mbRegsRead regs startAddr quantity (quantity.toNat * 2) = some payload) :
    ∃ byteCount regData, IsReadReply regs a startAddr quantity
      (responseBytes a 0x03 (UInt8.ofNat (quantity.toNat * 2) :: payload)) byteCount regData := by
  have hsome := Option.isSome_of_eq_some hread
  obtain ⟨⟨-, hle⟩, -, -⟩ := (isSome_mbRegsRead_iff _ _ _).1 hsome
  have hlen := length_of_mbRegsRead hread
  obtain ⟨regData, hdata⟩ : ∃ v : Vector UInt8 (quantity.toNat * 2), v.toList = payload :=
    ⟨⟨payload.toArray, by simpa using hlen⟩, by simp⟩
  refine ⟨UInt8.ofNat (quantity.toNat * 2), regData, fun out => ?_, ?_, ?_, ?_⟩
  · obtain ⟨out', hout, -, hstarts⟩ := mbRegsReadInto_spec regs startAddr quantity 0
      (quantity.toNat * 2) (starts_nil out) rfl (by omega)
    have hall := toList_of_starts (hstarts payload hread) hlen
    have heq : out' = regData := Vector.toList_inj.1 (hall.trans hdata.symm)
    rw [hout, hsome, heq]
  · rw [UInt8.toNat_ofNat']
    omega
  · rw [length_responseBytes, List.length_cons, hlen]
    omega
  · intro outCap outBuf hcap
    rw [builtFrame_eq a 0x03 _ (by omega) (by omega), Vector.toList_append, hdata]
    rfl

/-- The normal answer to a read is well formed. -/
theorem wellFormed_readReply {regs : ModbusRegMap} (a d0 d1 d2 d3 : UInt8) {payload : List UInt8}
    (hread : mbRegsRead regs (be16 d0 d1) (be16 d2 d3) ((be16 d2 d3).toNat * 2) = some payload) :
    WellFormedReply regs (responseBytes a 0x03 [d0, d1, d2, d3])
      (responseBytes a 0x03 (UInt8.ofNat ((be16 d2 d3).toNat * 2) :: payload)) := by
  obtain ⟨⟨-, hle⟩, -, -⟩ := (isSome_mbRegsRead_iff _ _ _).1 (Option.isSome_of_eq_some hread)
  obtain ⟨byteCount, regData, hreply⟩ := exists_isReadReply a hread
  have hlen := hreply.length_eq
  exact ⟨modbusFrameHasValidCrc_responseBytes a 0x03 _, by omega, rfl, Or.inl rfl,
    Or.inr (Or.inl ⟨rfl, byteCount, regData, hreply⟩)⟩

/-- What is answered to an accepted frame is well formed. -/
theorem wellFormed_answer (d : FlashDriver F) (n : Node F) (nowMs : UInt32) {frame : List UInt8}
    {ownSlaveAddr : UInt8} {out : ModbusRequest}
    (hok : (modbusParseRequest frame ownSlaveAddr out).1 = .ok) :
    WellFormedReply (syncRegisters n nowMs).regs frame
      (handleModbusRequest d n nowMs (modbusParseRequest frame ownSlaveAddr out).2).2 := by
  obtain ⟨a, f, d0, d1, d2, d3, rfl, hfunc, hreq⟩ := exists_request hok
  rw [hreq]
  rcases hfunc with rfl | rfl
  · have hanswer : (handleModbusRequest d n nowMs ⟨a, 0x03, [d0, d1, d2, d3]⟩).2 =
        readResponse (syncRegisters n nowMs).regs ⟨a, 0x03, [d0, d1, d2, d3]⟩ := rfl
    rw [hanswer, readResponse_data]
    split_ifs with hq
    · exact wellFormed_exception _ a 0x03 _ _
    · cases hread : mbRegsRead (syncRegisters n nowMs).regs (be16 d0 d1) (be16 d2 d3)
          ((be16 d2 d3).toNat * 2) with
      | none => exact wellFormed_exception _ a 0x03 _ _
      | some payload => exact wellFormed_readReply a d0 d1 d2 d3 hread
  · rw [answer_write]
    split_ifs with hwritten
    · exact wellFormed_exception _ a 0x06 _ _
    · -- the echo is the request frame itself
      have hlen : (writeEcho ⟨a, 0x06, [d0, d1, d2, d3]⟩).length = 8 := rfl
      exact ⟨modbusFrameHasValidCrc_responseBytes a 0x06 _, by omega, rfl, Or.inl rfl,
        Or.inr (Or.inr ⟨rfl, rfl, rfl⟩)⟩

/-- For every frame that the parser accepts, every node and whatever the response array held, the
handler returns, and what it transmits is a well-formed reply to the frame. -/
theorem replies_well_formed (d : FlashDriver F) (n : Node F) (nowMs : UInt32) (frame : List UInt8)
    (ownSlaveAddr : UInt8) (out : ModbusRequest) (respBuf : Vector UInt8 respBufSize)
    (hok : (modbusParseRequest frame ownSlaveAddr out).1 = .ok) :
    ∃ n' respLen respBuf', handleModbusRequestInto d n nowMs
        (modbusParseRequest frame ownSlaveAddr out).2 respBuf = .ok (n', respLen, respBuf') ∧
      ∀ resp ∈ transmitted (respBuf'.toList.take respLen),
        WellFormedReply (syncRegisters n nowMs).regs frame resp := by
  obtain ⟨respBuf', hhandle, hstarts⟩ := handleModbusRequestInto_starts d n nowMs
    (modbusParseRequest frame ownSlaveAddr out).2 respBuf
  refine ⟨_, _, respBuf', hhandle, fun resp hresp => ?_⟩
  rw [hstarts.bytes, transmitted] at hresp
  split_ifs at hresp
  · rw [List.mem_singleton.1 hresp]
    exact wellFormed_answer d n nowMs hok
  · cases hresp

theorem replies_well_formed_read :
    ∃ n' respLen respBuf', handleModbusRequestInto stm32f1Flash bootedNode 0
        (modbusParseRequest unicastRead 1 ⟨0, 0, []⟩).2 (Vector.replicate 260 0xFF) =
          .ok (n', respLen, respBuf') ∧
      ∀ resp ∈ transmitted (respBuf'.toList.take respLen),
        WellFormedReply (syncRegisters bootedNode 0).regs unicastRead resp :=
  replies_well_formed stm32f1Flash bootedNode 0 unicastRead 1 ⟨0, 0, []⟩
    (Vector.replicate 260 0xFF) (by decide +kernel)

end Replies

end ClimateNode.Application
