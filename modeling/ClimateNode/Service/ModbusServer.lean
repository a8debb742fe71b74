import ClimateNode.Core.Types
import ClimateNode.Service.Modbus

/-!
# The Modbus server

`service/modbus_server.c`: the callback that parses a chunk the UART driver delivers, and the task
that polls single bytes where a `recv` function is given. The context pointer of the callback is the
server of the last initialisation or task call; the firmware has one server, which is the argument
here.
-/

set_option autoImplicit false

namespace ClimateNode.Service

open ClimateNode.Core

universe u

/-- `MODBUS_SERVER_MAX_FRAME`. -/
def modbusServerMaxFrame : Nat := 256

/-- `modbus_event_t`. -/
inductive ModbusEvent where
  | none
  | request
  | crcError
  | addressError
  | functionError
  | lengthError
  | overflow
  deriving DecidableEq, Repr

/-- `uart_event_t`, with the chunk of an `RX_CHUNK`. -/
inductive UartEvent where
  | rxChunk (data : List UInt8)
  | txComplete
  | error
  deriving DecidableEq, Repr

/-- `modbus_server_t`; `buf` is the part of the buffer below `len`. -/
structure ModbusServer where
  buf : List UInt8
  lastByteMs : UInt32
  silenceMs : UInt32
  slaveAddr : UInt8
  event : ModbusEvent
  request : ModbusRequest
  parseError : ModbusParseErr
  rxByteCount : UInt32
  frameCount : UInt32
  errorCount : UInt32
  overflowCount : UInt32
  deriving DecidableEq, Repr

/-- `modbus_server_init`. -/
def modbusServerInit (slaveAddr : UInt8) (silenceMs : UInt32) : ModbusServer where
  buf := []
  lastByteMs := 0
  silenceMs := silenceMs
  slaveAddr := slaveAddr
  event := .none
  request := ⟨0, 0, []⟩
  parseError := .ok
  rxByteCount := 0
  frameCount := 0
  errorCount := 0
  overflowCount := 0

/-- The event a parse result raises. -/
def parseEvent : ModbusParseErr → ModbusEvent
  | .ok => .request
  | .crc => .crcError
  | .badAddr => .addressError
  | .unsupportedFunc => .functionError
  | .invalidArg | .shortFrame | .badLength => .lengthError

theorem parseEvent_eq_request_iff (e : ModbusParseErr) : parseEvent e = .request ↔ e = .ok := by
  cases e <;> decide

/-- The handling of a received chunk in `modbus_uart_event_callback`. -/
def modbusRxChunk (s : ModbusServer) (data : List UInt8) : ModbusServer :=
  let s := { s with rxByteCount := s.rxByteCount + UInt32.ofNat data.length }
  let r := modbusParseRequest data s.slaveAddr s.request
  let s := { s with request := r.2, parseError := r.1, event := parseEvent r.1 }
  if r.1 = .ok then { s with frameCount := s.frameCount + 1 }
  else { s with errorCount := s.errorCount + 1 }

/-- `modbus_uart_event_callback` on the current server. -/
def modbusUartEventCallback (s : ModbusServer) : UartEvent → ModbusServer
  | .error => { s with errorCount := s.errorCount + 1, event := .crcError }
  | .txComplete => s
  | .rxChunk data => modbusRxChunk s data

/-- The result of the polling loop of `modbus_server_task`. -/
structure PollStep (ρ : Type u) where
  server : ModbusServer
  recvCtx : ρ
  overflowed : Bool

/-- The polling loop of `modbus_server_task`, with `n` bytes to go. -/
def modbusPoll {ρ : Type u} (recv : ρ → Option UInt8 × ρ) (nowMs : UInt32) :
    Nat → ModbusServer → ρ → PollStep ρ
  | 0, s, ctx => ⟨s, ctx, false⟩
  | n + 1, s, ctx =>
      match recv ctx with
      | (.none, ctx) => ⟨s, ctx, false⟩
      | (.some byte, ctx) =>
          -- the byte that does not fit is discarded with the buffer
          if s.buf.length ≥ modbusServerMaxFrame then
            ⟨{ s with
                overflowCount := s.overflowCount + 1
                errorCount := s.errorCount + 1
                buf := []
                event := .overflow }, ctx, true⟩
          else
            modbusPoll recv nowMs n
              { s with
                buf := s.buf ++ [byte]
                lastByteMs := nowMs
                rxByteCount := s.rxByteCount + 1 } ctx

/-- `modbus_server_task`; a null `recv` is `none`. -/
def modbusServerTask {ρ : Type u} (recv : Option (ρ → Option UInt8 × ρ)) (ctx : ρ)
    (s : ModbusServer) (nowMs : UInt32) : Err × ModbusServer × ρ :=
  match recv with
  | .none => (.invalidArg, s, ctx)
  | .some recv =>
      let r := modbusPoll recv nowMs 16 s ctx
      if r.overflowed then (.ok, r.server, r.recvCtx)
      else if r.server.buf.length > 0 ∧
          (nowMs - r.server.lastByteMs).toInt32 ≥ r.server.silenceMs.toInt32 then
        (.ok, modbusUartEventCallback { r.server with buf := [] } (.rxChunk r.server.buf),
          r.recvCtx)
      else (.ok, r.server, r.recvCtx)

/-- `modbus_server_clear_event`. -/
def modbusServerClearEvent (s : ModbusServer) : ModbusServer :=
  { s with event := .none, parseError := .ok }

end ClimateNode.Service
