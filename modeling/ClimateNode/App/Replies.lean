import ClimateNode.App.MainMcu
import ClimateNode.Service.ModbusFrames

/-!
# Replies

What `handle_modbus_request` answers. It answers every request, with the request's address in front,
so the rule that a broadcast stays unanswered fails exactly for broadcasts (`address_rule_iff`). The
answer to a write is chosen before the application has seen the value, so the normal echo is
truthful exactly when the flash takes the image and the controller keeps the written field
(`truthful_reply_iff`).
-/

set_option autoImplicit false

namespace ClimateNode.Application

open ClimateNode.Core ClimateNode.Service ClimateNode.Machine ClimateNode.Platforms

section Addresses

variable {F : Type}

/-- The blocks handed to the transmitter for a response: none when it is empty. -/
def transmitted (resp : List UInt8) : List (List UInt8) := if resp.length > 0 then [resp] else []

theorem exceptionResponse_eq (req : ModbusRequest) (function code : UInt8) :
    exceptionResponse req function code =
      [req.slaveAddr, function ||| 0x80, code] ++
        crcTail (modbusCrc16 [req.slaveAddr, function ||| 0x80, code]) := rfl

/-- The answer to a read of four data bytes; the array always has room. -/
theorem readResponse_data (regs : ModbusRegMap) (a d0 d1 d2 d3 : UInt8) :
    readResponse regs ⟨a, 0x03, [d0, d1, d2, d3]⟩ =
      if be16 d2 d3 = 0 ∨ be16 d2 d3 > 125 then
        exceptionResponse ⟨a, 0x03, [d0, d1, d2, d3]⟩ 0x03 modbusExIllegalDataVal
      else (mbRegsRead regs (be16 d0 d1) (be16 d2 d3) ((be16 d2 d3).toNat * 2)).elim
        (exceptionResponse ⟨a, 0x03, [d0, d1, d2, d3]⟩ 0x03 modbusExIllegalDataAddr)
        fun payload =>
          responseBytes a 0x03 (UInt8.ofNat ((be16 d2 d3).toNat * 2) :: payload) := by
  simp only [readResponse]
  split_ifs with hq hsize
  · rfl
  · -- 125 registers take 255 bytes
    exfalso
    have hle := (quantity_accepted hq).2
    rw [respBufSize] at hsize
    omega
  · cases mbRegsRead regs (be16 d0 d1) (be16 d2 d3) ((be16 d2 d3).toNat * 2) with
    | none => rfl
    | some payload => rfl

/-! ## Addresses -/

theorem readResponse_answers (regs : ModbusRegMap) (req : ModbusRequest) :
    ∃ rest, readResponse regs req = req.slaveAddr :: rest := by
  simp only [readResponse]
  split
  · split_ifs
    · exact ⟨_, exceptionResponse_eq req _ _⟩
    · exact ⟨_, exceptionResponse_eq req _ _⟩
    · split
      · exact ⟨_, exceptionResponse_eq req _ _⟩
      · exact ⟨_, rfl⟩
  · exact ⟨_, exceptionResponse_eq req _ _⟩

theorem handleWrite_answers (d : FlashDriver F) (n : Node F) (req : ModbusRequest) :
    ∃ rest, (handleWrite d n req).2 = req.slaveAddr :: rest := by
  simp only [handleWrite]
  split
  · split
    · exact ⟨_, exceptionResponse_eq req _ _⟩
    · exact ⟨_, rfl⟩
  · exact ⟨_, exceptionResponse_eq req _ _⟩

/-- Every request is answered, with its own address in front. -/
theorem handleModbusRequest_answers (d : FlashDriver F) (n : Node F) (nowMs : UInt32)
    (req : ModbusRequest) :
    ∃ rest, (handleModbusRequest d n nowMs req).2 = req.slaveAddr :: rest := by
  by_cases hread : req.function = 0x03
  · simp only [handleModbusRequest, if_pos hread]
    exact readResponse_answers _ req
  · by_cases hwrite : req.function = 0x06
    · simp only [handleModbusRequest, if_neg hread, if_pos hwrite]
      exact handleWrite_answers d _ req
    · simp only [handleModbusRequest, if_neg hread, if_neg hwrite]
      exact ⟨_, exceptionResponse_eq req _ _⟩

/-- The addressing rule of the bus for a frame and the request made of it: a request to this node is
answered once, from its address; a broadcast is not answered, and a broadcast write takes effect. -/
structure AddressRule (d : FlashDriver F) (n : Node F) (nowMs : UInt32) (frame : List UInt8)
    (req : ModbusRequest) : Prop where
  unicast : frame.getD 0 0 = 1 →
    ∃ resp, transmitted (handleModbusRequest d n nowMs req).2 = [resp] ∧ resp.head? = some 1
  silent : frame.getD 0 0 = 0 → transmitted (handleModbusRequest d n nowMs req).2 = []
  effect : frame.getD 0 0 = 0 → frame.getD 1 0 = 0x06 →
    (handleModbusRequest d n nowMs req).1.sys =
      applyModbusWriteToApp d n.sys (be16 (frame.getD 2 0) (frame.getD 3 0))
        (be16 (frame.getD 4 0) (frame.getD 5 0))

/-- A write with four data bytes reaches the application, whatever its address is. -/
theorem sys_handleWrite (d : FlashDriver F) (n : Node F) (nowMs : UInt32)
    (slaveAddr d0 d1 d2 d3 : UInt8) :
    (handleModbusRequest d n nowMs ⟨slaveAddr, 0x06, [d0, d1, d2, d3]⟩).1.sys =
      applyModbusWriteToApp d n.sys (be16 d0 d1) (be16 d2 d3) := by
  rw [sys_handleModbusRequest]
  rfl

/-- The handler keeps to the addressing rule exactly when the frame is no broadcast. -/
theorem address_rule_iff (d : FlashDriver F) (n : Node F) (nowMs : UInt32) (frame : List UInt8)
    (out : ModbusRequest) (hok : (modbusParseRequest frame 1 out).1 = .ok) :
    AddressRule d n nowMs frame (modbusParseRequest frame 1 out).2 ↔ frame.getD 0 0 ≠ 0 := by
  obtain ⟨rest, hanswer⟩ := handleModbusRequest_answers d n nowMs (modbusParseRequest frame 1 out).2
  have hblock : transmitted (handleModbusRequest d n nowMs (modbusParseRequest frame 1 out).2).2 =
      [frame.getD 0 0 :: rest] := by
    rw [hanswer, modbusParseRequest_ok hok]
    rfl
  constructor
  · intro hrule hbroadcast
    have := hrule.silent hbroadcast
    rw [hblock] at this
    cases this
  · intro hunicast
    refine ⟨fun haddr => ⟨_, hblock, ?_⟩, fun h => absurd h hunicast, fun h => absurd h hunicast⟩
    rw [haddr]
    rfl

end Addresses

/-- The node of the firmware after a power-on boot with erased flash. -/
def bootedNode : Node Stm32f1Flash :=
  mcuBoot stm32f1Flash ⟨[], 0⟩ stm32f1Erased .powerOn 0

/-- A broadcast write of 1000 to the sample period. -/
def broadcastWrite : List UInt8 := [0x00, 0x06, 0x01, 0x02, 0x03, 0xE8, 0x28, 0x99]

/-- A read of one register, addressed to this node. -/
def unicastRead : List UInt8 := [0x01, 0x03, 0x00, 0x03, 0x00, 0x01, 0x74, 0x0A]

theorem address_rule_iff_read :
    AddressRule stm32f1Flash bootedNode 0 unicastRead
      (modbusParseRequest unicastRead 1 ⟨0, 0, []⟩).2 :=
  (address_rule_iff stm32f1Flash bootedNode 0 unicastRead ⟨0, 0, []⟩ (by decide +kernel)).2
    (by decide)

/-- The broadcast is answered. -/
theorem broadcast_answered :
    ¬ ∀ (F : Type) (d : FlashDriver F) (n : Node F) (nowMs : UInt32) (frame : List UInt8)
      (out : ModbusRequest), (modbusParseRequest frame 1 out).1 = .ok →
      AddressRule d n nowMs frame (modbusParseRequest frame 1 out).2 := by
  intro h
  have hrule := h Stm32f1Flash stm32f1Flash bootedNode 0 broadcastWrite ⟨0, 0, []⟩
    (by decide +kernel)
  have hsilent := hrule.silent rfl
  have hlen : (transmitted (handleModbusRequest stm32f1Flash bootedNode 0
      (modbusParseRequest broadcastWrite 1 ⟨0, 0, []⟩).2).2).length = 1 := by
    decide +kernel
  rw [hsilent] at hlen
  cases hlen

/-! ## Truthful replies to a write -/

section Truthful

variable {F : Type}

/-- The normal reply to a write: the request's own bytes. -/
def writeEcho (req : ModbusRequest) : List UInt8 :=
  [req.slaveAddr, 0x06] ++ req.data ++ crcTail (modbusCrc16 ([req.slaveAddr, 0x06] ++ req.data))

/-- `app_update_config` is called for the write and returns `ERR_OK`. -/
def UpdateReturnsOk (d : FlashDriver F) (n : Node F) (regAddr value : UInt16) : Prop :=
  ∃ cfg, modbusWrittenConfig n.sys.app.cfg regAddr value = some cfg ∧
    (appUpdateConfig d n.sys (storageFinalize cfg)).1 = .ok

/-- The controller configuration holds the value in the field of the register. -/
def HoldsWritten (cfg : ControllerConfig) (regAddr value : UInt16) : Prop :=
  (regAddr = mbCfgMarginOn ∧ cfg.dewMarginOnCd = value.toInt16.toInt32) ∨
    (regAddr = mbCfgMarginOff ∧ cfg.dewMarginOffCd = value.toInt16.toInt32) ∨
    (regAddr = mbCfgSampleMs ∧ cfg.samplePeriodMs = value.toUInt32)

/-- The write of `value` to `regAddr` that `req` asks for has taken effect once it is handled. -/
def WriteTookEffect (d : FlashDriver F) (n : Node F) (nowMs : UInt32) (req : ModbusRequest)
    (regAddr value : UInt16) : Prop :=
  UpdateReturnsOk d n regAddr value ∧
    HoldsWritten (handleModbusRequest d n nowMs req).1.sys.app.ctrl.cfg regAddr value

/-- The reply to a write is truthful: the normal echo only for a write that took effect, and an
exception for every other. -/
structure TruthfulReply (d : FlashDriver F) (n : Node F) (nowMs : UInt32) (req : ModbusRequest)
    (regAddr value : UInt16) : Prop where
  echo : (handleModbusRequest d n nowMs req).2 = writeEcho req →
    WriteTookEffect d n nowMs req regAddr value
  exception : ¬ WriteTookEffect d n nowMs req regAddr value →
    (handleModbusRequest d n nowMs req).2.getD 1 0 = 0x06 ||| 0x80

/-- The flash takes the image with the written value, and the controller will keep the value: it is
a period, or the margins of the image are in order, or it is the margin that replaces it. -/
def WriteSurvives (d : FlashDriver F) (n : Node F) (regAddr value : UInt16) : Prop :=
  ∃ cfg, modbusWrittenConfig n.sys.app.cfg regAddr value = some cfg ∧
    (d.write n.sys.flash 0 (storageFinalize cfg)).1 = .ok ∧
    (regAddr = mbCfgSampleMs ∨ cfg.dewMarginOnCd < cfg.dewMarginOffCd ∨
      (regAddr = mbCfgMarginOn ∧ value = 500) ∨ (regAddr = mbCfgMarginOff ∧ value = 700))

theorem appliesConfig_storageFinalize {d : FlashDriver F} {flash : F} {cfg : DeviceConfig} :
    AppliesConfig d flash (storageFinalize cfg) ↔
      (d.write flash 0 (storageFinalize cfg)).1 = .ok :=
  and_iff_right (storageValidate_storageFinalize cfg)

/-- Different register values are different margins. -/
theorem toInt32_toInt16_inj (a b : UInt16) : a.toInt16.toInt32 = b.toInt16.toInt32 ↔ a = b := by
  refine ⟨fun h => ?_, fun h => by rw [h]⟩
  rw [← Int32.toInt_inj, Int16.toInt_toInt32, Int16.toInt_toInt32, Int16.toInt_inj] at h
  simpa using congrArg Int16.toUInt16 h

/-- A margin that `ctrl_init` replaces is kept only when it is the replacement. -/
theorem fallback_eq_iff (fallback value : UInt16) :
    fallback.toInt16.toInt32 = value.toInt16.toInt32 ↔ value = fallback :=
  (toInt32_toInt16_inj fallback value).trans eq_comm

/-- A margin that is replaced when the margins are out of order holds the written value when they
are in order or when the value is the replacement. -/
theorem margin_kept_iff {p : Prop} [Decidable p] {field : Int32} {value fallback : UInt16}
    (h : field = if p then value.toInt16.toInt32 else fallback.toInt16.toInt32) :
    field = value.toInt16.toInt32 ↔ p ∨ value = fallback := by
  by_cases hp : p
  · rw [if_pos hp] at h
    exact iff_of_true h (Or.inl hp)
  · rw [if_neg hp] at h
    rw [h, fallback_eq_iff]
    exact ⟨Or.inr, fun hor => hor.resolve_left hp⟩

/-- The field of each register. -/
theorem holdsWritten_marginOn (cfg : ControllerConfig) (value : UInt16) :
    HoldsWritten cfg mbCfgMarginOn value ↔ cfg.dewMarginOnCd = value.toInt16.toInt32 := by
  simp [HoldsWritten, show mbCfgMarginOn ≠ mbCfgMarginOff by decide,
    show mbCfgMarginOn ≠ mbCfgSampleMs by decide]

theorem holdsWritten_marginOff (cfg : ControllerConfig) (value : UInt16) :
    HoldsWritten cfg mbCfgMarginOff value ↔ cfg.dewMarginOffCd = value.toInt16.toInt32 := by
  simp [HoldsWritten, show mbCfgMarginOff ≠ mbCfgMarginOn by decide,
    show mbCfgMarginOff ≠ mbCfgSampleMs by decide]

/-- `ctrl_init` keeps the written value. -/
theorem holdsWritten_iff {cfg cfg' : DeviceConfig} {regAddr value : UInt16}
    (h : modbusWrittenConfig cfg regAddr value = some cfg') :
    HoldsWritten (ctrlEffectiveConfig (ctrlCfgOf cfg')) regAddr value ↔
      (regAddr = mbCfgSampleMs ∨ cfg'.dewMarginOnCd < cfg'.dewMarginOffCd ∨
        (regAddr = mbCfgMarginOn ∧ value = 500) ∨ (regAddr = mbCfgMarginOff ∧ value = 700)) := by
  have hordered : (ctrlCfgOf cfg').dewMarginOnCd < (ctrlCfgOf cfg').dewMarginOffCd ↔
      cfg'.dewMarginOnCd < cfg'.dewMarginOffCd := Int16.toInt32_lt
  have hmargins := dewMargins_ctrlEffectiveConfig (ctrlCfgOf cfg')
  simp only [hordered] at hmargins
  unfold modbusWrittenConfig at h
  split_ifs at h with hon hoff hsample hzero
  · -- the switch-on margin
    subst hon
    have hfield := congrArg Prod.fst hmargins
    rw [apply_ite Prod.fst] at hfield
    cases h
    rw [holdsWritten_marginOn, @margin_kept_iff _ _ _ value 500 hfield]
    simp [show mbCfgMarginOn ≠ mbCfgMarginOff by decide,
      show mbCfgMarginOn ≠ mbCfgSampleMs by decide]
  · -- the switch-off margin
    subst hoff
    have hfield := congrArg Prod.snd hmargins
    rw [apply_ite Prod.snd] at hfield
    cases h
    rw [holdsWritten_marginOff, @margin_kept_iff _ _ _ value 700 hfield]
    simp [hon, show mbCfgMarginOff ≠ mbCfgSampleMs by decide]
  · -- a period is kept unless it is zero
    cases h
    refine iff_of_true (Or.inr (Or.inr ⟨hsample, ?_⟩)) (Or.inl hsample)
    have hne : (ctrlCfgOf { cfg with samplePeriodMs := value }).samplePeriodMs ≠ 0 := by
      intro h0
      apply hzero
      rw [← UInt16.toNat_inj]
      simpa [ctrlCfgOf] using congrArg UInt32.toNat h0
    rw [samplePeriodMs_ctrlEffectiveConfig, if_neg hne]
    rfl

/-- A write that reaches the application takes effect when the flash takes the image and the
controller keeps the value. -/
theorem writeTookEffect_iff (d : FlashDriver F) {n : Node F} (nowMs : UInt32)
    (slaveAddr d0 d1 d2 d3 : UInt8) :
    WriteTookEffect d n nowMs ⟨slaveAddr, 0x06, [d0, d1, d2, d3]⟩ (be16 d0 d1) (be16 d2 d3) ↔
      WriteSurvives d n (be16 d0 d1) (be16 d2 d3) := by
  have hsys := sys_handleWrite d n nowMs slaveAddr d0 d1 d2 d3
  rw [WriteTookEffect, hsys]
  constructor
  · rintro ⟨⟨cfg, hcfg, hupdate⟩, hholds⟩
    have happ := appUpdateConfig_eq_ok_iff.1 hupdate
    simp only [applyModbusWriteToApp, hcfg, appUpdateConfig_of_applies happ] at hholds
    exact ⟨cfg, hcfg, appliesConfig_storageFinalize.1 happ, (holdsWritten_iff hcfg).1 hholds⟩
  · rintro ⟨cfg, hcfg, hflash, hkept⟩
    have happ : AppliesConfig d n.sys.flash (storageFinalize cfg) :=
      appliesConfig_storageFinalize.2 hflash
    refine ⟨⟨cfg, hcfg, appUpdateConfig_eq_ok_iff.2 happ⟩, ?_⟩
    simp only [applyModbusWriteToApp, hcfg, appUpdateConfig_of_applies happ]
    exact (holdsWritten_iff hcfg).2 hkept

/-- The answer to a write depends on the register map only. -/
theorem answer_write (d : FlashDriver F) (n : Node F) (nowMs : UInt32)
    (slaveAddr d0 d1 d2 d3 : UInt8) :
    (handleModbusRequest d n nowMs ⟨slaveAddr, 0x06, [d0, d1, d2, d3]⟩).2 =
      if modbusWrittenConfig n.sys.app.cfg (be16 d0 d1) (be16 d2 d3) = none then
        exceptionResponse ⟨slaveAddr, 0x06, [d0, d1, d2, d3]⟩ 0x06 modbusExIllegalDataAddr
      else writeEcho ⟨slaveAddr, 0x06, [d0, d1, d2, d3]⟩ := by
  have hiff := mbRegsWriteSingle_eq_none_iff (syncRegisters n nowMs).regs n.sys.app.cfg
    (be16 d0 d1) (be16 d2 d3)
  show (handleWrite d (syncRegisters n nowMs) ⟨slaveAddr, 0x06, [d0, d1, d2, d3]⟩).2 = _
  cases hregs : mbRegsWriteSingle (syncRegisters n nowMs).regs (be16 d0 d1) (be16 d2 d3) with
  | none =>
      rw [if_pos (hiff.1 hregs)]
      simp only [handleWrite, hregs]
  | some regs =>
      have hsome := mt hiff.2 (by rw [hregs]; exact Option.some_ne_none regs)
      rw [if_neg hsome]
      simp only [handleWrite, hregs]
      rfl

/-- The reply to a write is truthful exactly when no configuration register takes the value, so that
it is an exception, or when the flash takes the image and the controller keeps the value. -/
theorem truthful_reply_iff (d : FlashDriver F) (n : Node F) (nowMs : UInt32)
    (slaveAddr d0 d1 d2 d3 : UInt8) :
    TruthfulReply d n nowMs ⟨slaveAddr, 0x06, [d0, d1, d2, d3]⟩ (be16 d0 d1) (be16 d2 d3) ↔
      modbusWrittenConfig n.sys.app.cfg (be16 d0 d1) (be16 d2 d3) = none ∨
        WriteSurvives d n (be16 d0 d1) (be16 d2 d3) := by
  have hanswer := answer_write d n nowMs slaveAddr d0 d1 d2 d3
  rw [← writeTookEffect_iff d nowMs slaveAddr d0 d1 d2 d3]
  by_cases hwritten : modbusWrittenConfig n.sys.app.cfg (be16 d0 d1) (be16 d2 d3) = none
  · rw [if_pos hwritten] at hanswer
    refine iff_of_true ⟨fun hecho => ?_, fun _ => by rw [hanswer]; rfl⟩ (Or.inl hwritten)
    -- the function byte of an exception is not the one of the echo
    rw [hanswer] at hecho
    have hbyte : (0x06 : UInt8) ||| 0x80 = 0x06 := congrArg (fun resp => resp.getD 1 0) hecho
    exact absurd hbyte (by decide)
  · -- the echo is sent before the application has seen the value
    rw [if_neg hwritten] at hanswer
    constructor
    · exact fun htrue => Or.inr (htrue.echo hanswer)
    · rintro (hnone | heffect)
      · exact absurd hnone hwritten
      · exact ⟨fun _ => heffect, fun hnot => absurd heffect hnot⟩

end Truthful

/-- A write of 800 to the switch-on margin is answered with the echo, and the controller uses
500. -/
theorem untruthful_echo :
    ¬ ∀ (F : Type) (d : FlashDriver F) (n : Node F) (nowMs : UInt32)
      (slaveAddr d0 d1 d2 d3 : UInt8),
      TruthfulReply d n nowMs ⟨slaveAddr, 0x06, [d0, d1, d2, d3]⟩ (be16 d0 d1) (be16 d2 d3) := by
  intro h
  have htrue := h Stm32f1Flash stm32f1Flash bootedNode 0 1 0x01 0x00 0x03 0x20
  obtain ⟨-, hholds⟩ := htrue.echo (by decide +kernel)
  have hon : (handleModbusRequest stm32f1Flash bootedNode 0
      ⟨1, 0x06, [0x01, 0x00, 0x03, 0x20]⟩).1.sys.app.ctrl.cfg.dewMarginOnCd = 500 := by
    decide +kernel
  rcases hholds with ⟨-, hfield⟩ | ⟨haddr, -⟩ | ⟨haddr, -⟩
  · rw [hon] at hfield
    exact absurd hfield (by decide)
  · exact absurd haddr (by decide)
  · exact absurd haddr (by decide)

end ClimateNode.Application
