import ClimateNode.Machine.CheckedInt
import ClimateNode.Machine.Crc
import Mathlib.Tactic.SplitIfs

/-!
# Modbus RTU frames

`service/modbus.c`: the checksum, the request parser and the two response builders. A request is
taken by value, with the bytes that the `data` pointer and `data_len` of `modbus_request_t` cover
when it is read; `RequestSlot` keeps the pointer.
-/

set_option autoImplicit false

namespace ClimateNode.Service

open ClimateNode.Machine

/-- `modbus_parse_err_t`. -/
inductive ModbusParseErr where
  | ok
  | invalidArg
  | shortFrame
  | crc
  | badAddr
  | unsupportedFunc
  | badLength
  deriving DecidableEq, Repr

/-- `modbus_request_t`, with the bytes that its pointer shows. -/
structure ModbusRequest where
  slaveAddr : UInt8
  function : UInt8
  data : List UInt8
  deriving DecidableEq, Repr

/-- `modbus_crc16`. -/
def modbusCrc16 (data : List UInt8) : UInt16 :=
  UInt16.ofBitVec (crcBytes 0xA001#16 0xFFFF#16 data)

/-- The two checksum bytes of a frame, low byte first. -/
def crcTail (crc : UInt16) : List UInt8 := [(crc &&& 0xFF).toUInt8, (crc >>> 8).toUInt8]

/-- `modbus_frame_has_valid_crc`. -/
def modbusFrameHasValidCrc (frame : List UInt8) : Bool :=
  if frame.length < 3 then false
  else
    let calculated := modbusCrc16 (frame.take (frame.length - 2))
    let received := (frame.getD (frame.length - 2) 0).toUInt16 |||
      ((frame.getD (frame.length - 1) 0).toUInt16 <<< 8)
    calculated == received

/-- `modbus_parse_request`: the code, and what `*out` holds afterwards. -/
def modbusParseRequest (frame : List UInt8) (ownSlaveAddr : UInt8) (out : ModbusRequest) :
    ModbusParseErr × ModbusRequest :=
  if frame.length < 5 then (.shortFrame, out)
  else if !modbusFrameHasValidCrc frame then (.crc, out)
  else
    let slaveAddr := frame.getD 0 0
    let function := frame.getD 1 0
    if slaveAddr ≠ ownSlaveAddr ∧ slaveAddr ≠ 0 then (.badAddr, out)
    else
      let payloadLen := frame.length - 4
      let out : ModbusRequest := ⟨slaveAddr, function, (frame.drop 2).take payloadLen⟩
      if function = 0x03 ∨ function = 0x06 then
        if payloadLen ≠ 4 then (.badLength, out) else (.ok, out)
      else (.unsupportedFunc, out)

/-- An accepted frame is the request of its bytes, without the checksum. -/
theorem modbusParseRequest_ok {frame : List UInt8} {addr : UInt8} {out : ModbusRequest}
    (h : (modbusParseRequest frame addr out).1 = .ok) :
    (modbusParseRequest frame addr out).2 =
      ⟨frame.getD 0 0, frame.getD 1 0, (frame.drop 2).take (frame.length - 4)⟩ := by
  revert h
  simp only [modbusParseRequest]
  -- only the innermost branch returns `ok`
  split_ifs <;> first | exact fun _ => rfl | exact nofun

def modbusExIllegalFunc : UInt8 := 0x01
def modbusExIllegalDataAddr : UInt8 := 0x02
def modbusExIllegalDataVal : UInt8 := 0x03
def modbusExSlaveDeviceFail : UInt8 := 0x04

/-- The loop of `modbus_build_response` that copies the payload to the index `i` on. -/
def copyPayload {outCap : Nat} (outBuf : Vector UInt8 outCap) (i : Nat) :
    List UInt8 → Checked (Vector UInt8 outCap)
  | [] => pure outBuf
  | byte :: rest => do
      let outBuf ← writeAt outBuf i byte
      copyPayload outBuf (i + 1) rest

/-- The first `n` bytes of a buffer, as `modbus_crc16` reads them. -/
def readPrefix {outCap : Nat} (outBuf : Vector UInt8 outCap) (n : Nat) : Checked (List UInt8) :=
  if n ≤ outCap then pure (outBuf.toList.take n) else throw .outOfBounds

/-- `modbus_build_response`: the length it returns and the buffer afterwards. The payload is `none`
for a null pointer; `payload_len` is an argument of its own. -/
def modbusBuildResponse (slaveAddr function : UInt8) (payloadLen : Nat)
    (payload : Option (Vector UInt8 payloadLen)) {outCap : Nat} (outBuf : Vector UInt8 outCap) :
    Checked (Nat × Vector UInt8 outCap) := do
  if outCap < 5 then return (0, outBuf)
  let outBuf ← writeAt outBuf 0 slaveAddr
  let outBuf ← writeAt outBuf 1 function
  let needed := if payload.isSome ∧ payloadLen > 0 then 2 + payloadLen + 2 else 2 + 2
  if needed > outCap then return (0, outBuf)
  let outBuf ← copyPayload outBuf 2 ((payload.map Vector.toList).getD [])
  -- the length counts the payload also when the pointer is null
  let totalLenNoCrc := 2 + payloadLen
  let crc := modbusCrc16 (← readPrefix outBuf totalLenNoCrc)
  let outBuf ← writeAt outBuf totalLenNoCrc (crc &&& 0xFF).toUInt8
  let outBuf ← writeAt outBuf (totalLenNoCrc + 1) (crc >>> 8).toUInt8
  return (totalLenNoCrc + 2, outBuf)

/-- `modbus_build_exception`: the bytes written, or none when the buffer is too small. -/
def modbusBuildException (slaveAddr originalFunc exceptionCode : UInt8) (outCap : Nat) :
    List UInt8 :=
  if outCap < 5 then []
  else
    let header := [slaveAddr, originalFunc ||| 0x80, exceptionCode]
    header ++ crcTail (modbusCrc16 header)

end ClimateNode.Service
