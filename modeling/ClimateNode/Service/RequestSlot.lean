import ClimateNode.Machine.CyclicBuffer
import ClimateNode.Service.ModbusServer

/-!
# The request slot

`modbus_request_t` keeps its payload by address: the parser sets `data` to the third byte of the
frame it was given and copies nothing. Here a frame is a range of a memory, and `data` a place in
it. `RequestSlot.read` is the request that the slot shows while the memory holds certain bytes; when
the memory changes under the slot, so does the request.

The parser and the callback are written over places first, and then shown to compute what the
versions over bytes compute, as long as the memory stands still.
-/

set_option autoImplicit false

namespace ClimateNode.Service

open ClimateNode.Machine

/-- A range of a memory of `size` bytes. -/
structure MemRange (size : Nat) where
  pos : Nat
  len : Nat
  inside : pos + len ≤ size

/-- `modbus_request_t` with its pointer: the place of the payload, `none` for the null pointer. -/
structure RequestSlot where
  slaveAddr : UInt8
  function : UInt8
  data : Option Nat
  dataLen : Nat
  deriving DecidableEq, Repr

/-- `modbus_server_t` with the request by its pointer. -/
structure SlotServer where
  buf : List UInt8
  lastByteMs : UInt32
  silenceMs : UInt32
  slaveAddr : UInt8
  event : ModbusEvent
  request : RequestSlot
  parseError : ModbusParseErr
  rxByteCount : UInt32
  frameCount : UInt32
  errorCount : UInt32
  overflowCount : UInt32
  deriving DecidableEq, Repr

/-- `uart_event_t`, with the range that an `RX_CHUNK` points to. -/
inductive SlotEvent (size : Nat) where
  | rxChunk (chunk : MemRange size)
  | txComplete
  | error

section Functions

variable {size : Nat}

/-- The bytes of a range. -/
def MemRange.bytes (mem : Vector UInt8 size) (range : MemRange size) : List UInt8 :=
  (mem.toList.drop range.pos).take range.len

/-- `modbus_server_init`. -/
def slotServerInit (slaveAddr : UInt8) (silenceMs : UInt32) : SlotServer where
  buf := []
  lastByteMs := 0
  silenceMs := silenceMs
  slaveAddr := slaveAddr
  event := .none
  request := ⟨0, 0, none, 0⟩
  parseError := .ok
  rxByteCount := 0
  frameCount := 0
  errorCount := 0
  overflowCount := 0

/-- `modbus_parse_request`: the code, and what `*out` holds afterwards. -/
def slotParseRequest (mem : Vector UInt8 size) (frame : MemRange size) (ownSlaveAddr : UInt8)
    (out : RequestSlot) : ModbusParseErr × RequestSlot :=
  let bytes := frame.bytes mem
  if frame.len < 5 then (.shortFrame, out)
  else if !modbusFrameHasValidCrc bytes then (.crc, out)
  else
    let slaveAddr := bytes.getD 0 0
    let function := bytes.getD 1 0
    if slaveAddr ≠ ownSlaveAddr ∧ slaveAddr ≠ 0 then (.badAddr, out)
    else
      let payloadLen := frame.len - 4
      -- `&frame[2]`: the payload stays where the frame is
      let out : RequestSlot := ⟨slaveAddr, function, some (frame.pos + 2), payloadLen⟩
      if function = 0x03 ∨ function = 0x06 then
        if payloadLen ≠ 4 then (.badLength, out) else (.ok, out)
      else (.unsupportedFunc, out)

/-- The handling of a received chunk in `modbus_uart_event_callback`. -/
def slotRxChunk (mem : Vector UInt8 size) (s : SlotServer) (chunk : MemRange size) : SlotServer :=
  let s := { s with rxByteCount := s.rxByteCount + UInt32.ofNat chunk.len }
  let r := slotParseRequest mem chunk s.slaveAddr s.request
  let s := { s with request := r.2, parseError := r.1, event := parseEvent r.1 }
  if r.1 = .ok then { s with frameCount := s.frameCount + 1 }
  else { s with errorCount := s.errorCount + 1 }

/-- `modbus_uart_event_callback` on the current server. -/
def slotUartEventCallback (mem : Vector UInt8 size) (s : SlotServer) : SlotEvent size → SlotServer
  | .error => { s with errorCount := s.errorCount + 1, event := .crcError }
  | .txComplete => s
  | .rxChunk chunk => slotRxChunk mem s chunk

/-- `modbus_server_clear_event`. -/
def slotServerClearEvent (s : SlotServer) : SlotServer :=
  { s with event := .none, parseError := .ok }

end Functions

/-! ## Reading through the pointer -/

section Read

variable {size : Nat}

/-- The payload bytes that the pointer and the length cover. -/
def RequestSlot.payload (mem : Vector UInt8 size) (slot : RequestSlot) : List UInt8 :=
  match slot.data with
  | none => []
  | some pos => (mem.toList.drop pos).take slot.dataLen

/-- The request as a reader of the slot finds it. -/
def RequestSlot.read (mem : Vector UInt8 size) (slot : RequestSlot) : ModbusRequest :=
  ⟨slot.slaveAddr, slot.function, slot.payload mem⟩

/-- The server as a reader of its slot finds it. -/
def SlotServer.read (mem : Vector UInt8 size) (s : SlotServer) : ModbusServer where
  buf := s.buf
  lastByteMs := s.lastByteMs
  silenceMs := s.silenceMs
  slaveAddr := s.slaveAddr
  event := s.event
  request := s.request.read mem
  parseError := s.parseError
  rxByteCount := s.rxByteCount
  frameCount := s.frameCount
  errorCount := s.errorCount
  overflowCount := s.overflowCount

/-- The event with the bytes of its range. -/
def SlotEvent.read (mem : Vector UInt8 size) : SlotEvent size → UartEvent
  | .rxChunk chunk => .rxChunk (chunk.bytes mem)
  | .txComplete => .txComplete
  | .error => .error

theorem MemRange.length_bytes (mem : Vector UInt8 size) (range : MemRange size) :
    (range.bytes mem).length = range.len := by
  have hinside := range.inside
  rw [MemRange.bytes, List.length_take, List.length_drop, Vector.length_toList]
  omega

/-- Parsing at a place is parsing the bytes there. -/
theorem slotParseRequest_read (mem : Vector UInt8 size) (frame : MemRange size)
    (ownSlaveAddr : UInt8) (out : RequestSlot) :
    modbusParseRequest (frame.bytes mem) ownSlaveAddr (out.read mem) =
      ((slotParseRequest mem frame ownSlaveAddr out).1,
        (slotParseRequest mem frame ownSlaveAddr out).2.read mem) := by
  have hlen := frame.length_bytes mem
  -- the payload of the frame is what the pointer will show
  have hdata : (List.drop 2 (frame.bytes mem)).take (frame.len - 4) =
      (mem.toList.drop (frame.pos + 2)).take (frame.len - 4) := by
    rw [MemRange.bytes, List.drop_take, List.drop_drop, List.take_take]
    congr 1
    omega
  simp only [modbusParseRequest, slotParseRequest, hlen, hdata]
  split_ifs <;> rfl

/-- So is the callback. -/
theorem slotUartEventCallback_read (mem : Vector UInt8 size) (s : SlotServer)
    (event : SlotEvent size) :
    (slotUartEventCallback mem s event).read mem =
      modbusUartEventCallback (s.read mem) (event.read mem) := by
  cases event with
  | txComplete => rfl
  | error => rfl
  | rxChunk chunk =>
      have hparse := slotParseRequest_read mem chunk s.slaveAddr s.request
      have hcode := congrArg Prod.fst hparse
      have hreq := congrArg Prod.snd hparse
      have hlen := chunk.length_bytes mem
      show (slotRxChunk mem s chunk).read mem =
        modbusRxChunk (s.read mem) (chunk.bytes mem)
      by_cases hok : (slotParseRequest mem chunk s.slaveAddr s.request).1 = .ok
      · simp [slotRxChunk, modbusRxChunk, SlotServer.read, hcode, hreq, hlen, hok]
      · simp [slotRxChunk, modbusRxChunk, SlotServer.read, hcode, hreq, hlen, hok]

/-- A changed byte shows through a pointer exactly when it lies in the payload. -/
theorem RequestSlot.read_set_iff (mem : Vector UInt8 size) (slot : RequestSlot) (place : Fin size)
    (byte : UInt8) :
    slot.read (mem.set place byte) = slot.read mem ↔
      ∀ pos, slot.data = some pos → pos ≤ place → place < pos + slot.dataLen →
        byte = mem[place] := by
  obtain ⟨slaveAddr, function, data, dataLen⟩ := slot
  cases data with
  | none => simp [RequestSlot.read, RequestSlot.payload]
  | some pos =>
      have hplace : place.val < mem.toList.length := by
        rw [Vector.length_toList]
        exact place.isLt
      have hbyte : mem.toList[place.val] = mem[place] := Vector.getElem_toList hplace
      have hset : (mem.set place byte).toList = mem.toList.set place byte := Vector.toList_set ..
      simp only [RequestSlot.read, RequestSlot.payload, ModbusRequest.mk.injEq, true_and, hset,
        take_drop_set_iff hplace, hbyte, Option.some.injEq, forall_eq']

end Read

end ClimateNode.Service
