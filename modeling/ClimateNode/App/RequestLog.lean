import ClimateNode.App.MainMcu
import ClimateNode.Service.LogTexts

/-!
# What a request logs

The texts that `apply_modbus_write_to_app` and `handle_modbus_request` of `app/main_mcu.c` write: a
failed update at the level of warnings, the length of a response at the level of debugging. They
depend on the node and the request, and nothing depends on them, so the handler itself is modelled
without them.
-/

set_option autoImplicit false

namespace ClimateNode.Application

open ClimateNode.Core ClimateNode.Service ClimateNode.Machine

section Log

variable {F τ : Type} (put : τ → UInt8 → τ) (level : LogLevel) (d : FlashDriver F)

/-- The log of `apply_modbus_write_to_app`. -/
def applyModbusWriteLog (nowMs : UInt32) (σ : AppSys F) (regAddr value : UInt16) (l : τ) :
    Checked τ :=
  match modbusWrittenConfig σ.app.cfg regAddr value with
  | none => .ok l
  | some tmpCfg =>
      let e := (appUpdateConfig d σ (storageFinalize tmpCfg)).1
      if e ≠ .ok ∧ loggerLevelEnabled level .warn = true then do
        let l ← logTimestamp put l nowMs
        let l := loggerWriteText put l (cChars "CFG SAVE ERROR=")
        let l := loggerWriteText put l (errStr e)
        return loggerNewLine put l
      else .ok l

/-- The log of the write branch of `handle_modbus_request`, after the registers have been
synchronised. -/
def handleWriteLog (nowMs : UInt32) (n : Node F) (req : ModbusRequest) (l : τ) : Checked τ :=
  match req.data with
  | [d0, d1, d2, d3] =>
      match mbRegsWriteSingle n.regs (be16 d0 d1) (be16 d2 d3) with
      | none => .ok l
      | some _ => applyModbusWriteLog put level d nowMs n.sys (be16 d0 d1) (be16 d2 d3) l
  | _ => .ok l

/-- The log of the end of `handle_modbus_request`. -/
def sendResponseLog (nowMs : UInt32) (resp : List UInt8) (l : τ) : Checked τ :=
  if resp.length > 0 ∧ loggerLevelEnabled level .debug = true then do
    let l ← logTimestamp put l nowMs
    let l := loggerWriteText put l (cChars "TX len=")
    let l ← loggerWriteU32 put l (UInt32.ofNat resp.length)
    return loggerNewLine put l
  else .ok l

/-- The log of `handle_modbus_request`. -/
def handleModbusRequestLog (nowMs : UInt32) (n : Node F) (req : ModbusRequest) (l : τ) :
    Checked τ := do
  let l ← (if req.function = 0x06 then
    handleWriteLog put level d nowMs (syncRegisters n nowMs) req l else .ok l)
  sendResponseLog put level nowMs (handleModbusRequest d n nowMs req).2 l

/-! ## The characters -/

/-- The line about a failed update. -/
def saveErrorChars (nowMs : UInt32) (e : Err) : List UInt8 :=
  timestampChars nowMs ++ (cChars "CFG SAVE ERROR=" ++ (errStr e ++ [0x0D, 0x0A]))

/-- The line about a response. -/
def txLenChars (nowMs : UInt32) (respLen : Nat) : List UInt8 :=
  timestampChars nowMs ++
    (cChars "TX len=" ++ (decimalNumeral (UInt32.ofNat respLen).toNat ++ [0x0D, 0x0A]))

/-- The result of the update that a request asks for. -/
def requestedUpdate (n : Node F) (req : ModbusRequest) : Err :=
  (requestedConfig n.sys.app.cfg req).elim .ok fun cfg =>
    (appUpdateConfig d n.sys (storageFinalize cfg)).1

variable {put level d}

theorem loggerNewLine_eq (l : τ) : loggerNewLine put l = [0x0D, 0x0A].foldl put l := rfl

/-- The characters of a failed update. -/
def updateErrorChars (level : LogLevel) (nowMs : UInt32) (e : Err) : List UInt8 :=
  if e ≠ .ok ∧ loggerLevelEnabled level .warn = true then saveErrorChars nowMs e else []

theorem applyModbusWriteLog_eq (nowMs : UInt32) (σ : AppSys F) (regAddr value : UInt16) (l : τ) :
    applyModbusWriteLog put level d nowMs σ regAddr value l =
      .ok (((modbusWrittenConfig σ.app.cfg regAddr value).elim [] fun cfg =>
        updateErrorChars level nowMs (appUpdateConfig d σ (storageFinalize cfg)).1).foldl
          put l) := by
  unfold applyModbusWriteLog
  cases modbusWrittenConfig σ.app.cfg regAddr value with
  | none => rfl
  | some cfg =>
      have htext := cChars_ne_zero "CFG SAVE ERROR=" (by decide)
      have hname : ∀ c ∈ errStr (appUpdateConfig d σ (storageFinalize cfg)).1, c ≠ 0 :=
        fun c hc => (isNameChar_errStr _ c hc).ne.1
      dsimp only [Option.elim_some, updateErrorChars]
      split
      · rw [logTimestamp_eq, checked_ok_bind, loggerWriteText_eq put _ htext,
          loggerWriteText_eq put _ hname, loggerNewLine_eq, saveErrorChars]
        simp only [List.foldl_append]
        rfl
      · rfl

/-- Without four data bytes no configuration is asked for. -/
theorem requestedConfig_of_not_four (cfg : DeviceConfig) {req : ModbusRequest}
    (h : ¬ ∃ d0 d1 d2 d3, req.data = [d0, d1, d2, d3]) : requestedConfig cfg req = none := by
  unfold requestedConfig
  split
  · split
    · next d0 d1 d2 d3 hdata => exact absurd ⟨d0, d1, d2, d3, hdata⟩ h
    · rfl
  · rfl

theorem handleWriteLog_of_not_four (nowMs : UInt32) (n : Node F) {req : ModbusRequest}
    (h : ¬ ∃ d0 d1 d2 d3, req.data = [d0, d1, d2, d3]) (l : τ) :
    handleWriteLog put level d nowMs n req l = .ok l := by
  unfold handleWriteLog
  split
  · next d0 d1 d2 d3 hdata => exact absurd ⟨d0, d1, d2, d3, hdata⟩ h
  · rfl

/-- A write logs the result of the update it asks for. -/
theorem handleWriteLog_eq (nowMs : UInt32) (n : Node F) (req : ModbusRequest)
    (hfun : req.function = 0x06) (l : τ) :
    handleWriteLog put level d nowMs n req l =
      .ok ((updateErrorChars level nowMs (requestedUpdate d n req)).foldl put l) := by
  by_cases hdata : ∃ d0 d1 d2 d3, req.data = [d0, d1, d2, d3]
  · obtain ⟨slaveAddr, function, data⟩ := req
    obtain ⟨d0, d1, d2, d3, rfl⟩ := hdata
    -- the map refuses a write exactly when the application does
    have hiff := mbRegsWriteSingle_eq_none_iff n.regs n.sys.app.cfg (be16 d0 d1) (be16 d2 d3)
    rw [requestedUpdate, requestedConfig, if_pos hfun]
    simp only [handleWriteLog]
    cases hregs : mbRegsWriteSingle n.regs (be16 d0 d1) (be16 d2 d3) with
    | none =>
        rw [hiff.1 hregs]
        rfl
    | some regs =>
        dsimp only
        rw [applyModbusWriteLog_eq]
        cases modbusWrittenConfig n.sys.app.cfg (be16 d0 d1) (be16 d2 d3) with
        | none => rfl
        | some cfg => rfl
  · rw [handleWriteLog_of_not_four nowMs n hdata, requestedUpdate,
      requestedConfig_of_not_four _ hdata]
    rfl

/-- The characters of a response of `respLen` bytes. -/
def responseChars (level : LogLevel) (nowMs : UInt32) (respLen : Nat) : List UInt8 :=
  if respLen > 0 ∧ loggerLevelEnabled level .debug = true then txLenChars nowMs respLen else []

theorem sendResponseLog_eq (nowMs : UInt32) (resp : List UInt8) (l : τ) :
    sendResponseLog put level nowMs resp l =
      .ok ((responseChars level nowMs resp.length).foldl put l) := by
  have htext := cChars_ne_zero "TX len=" (by decide)
  unfold sendResponseLog responseChars
  split
  · rw [logTimestamp_eq, checked_ok_bind, loggerWriteText_eq put _ htext]
    simp only [loggerWriteU32_eq, checked_ok_bind, loggerNewLine_eq, txLenChars,
      List.foldl_append]
    rfl
  · rfl

/-- The characters a request writes to the log. -/
def requestLogChars (level : LogLevel) (d : FlashDriver F) (nowMs : UInt32) (n : Node F)
    (req : ModbusRequest) : List UInt8 :=
  updateErrorChars level nowMs (requestedUpdate d n req) ++
    responseChars level nowMs (handleModbusRequest d n nowMs req).2.length

/-- The log of a request is a list of characters, whatever takes them. -/
theorem handleModbusRequestLog_eq (nowMs : UInt32) (n : Node F) (req : ModbusRequest) (l : τ) :
    handleModbusRequestLog put level d nowMs n req l =
      .ok ((requestLogChars level d nowMs n req).foldl put l) := by
  have hwrite : (if req.function = 0x06 then
        handleWriteLog put level d nowMs (syncRegisters n nowMs) req l else .ok l) =
      .ok ((updateErrorChars level nowMs (requestedUpdate d n req)).foldl put l) := by
    by_cases hfun : req.function = 0x06
    · rw [if_pos hfun, handleWriteLog_eq nowMs _ req hfun]
      rfl
    · rw [if_neg hfun, requestedUpdate, requestedConfig, if_neg hfun]
      rfl
  rw [handleModbusRequestLog, hwrite, checked_ok_bind, sendResponseLog_eq, requestLogChars,
    List.foldl_append]

end Log

end ClimateNode.Application
