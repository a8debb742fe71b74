import ClimateNode.App.ResponseBuffer

/-!
# Exception codes

Which exception code answers which cause. For a read the handler checks the quantity itself, so a
code 02 can only come from an address. For a write it has one boolean of `mb_regs_write_single`,
which is false for an address that cannot be written and for a period of 0, and it answers both with
code 02. `exception_rule_iff` says that this period is the one request whose code does not follow
its cause.
-/

set_option autoImplicit false

namespace ClimateNode.Application

open ClimateNode.Core ClimateNode.Service ClimateNode.Machine ClimateNode.Platforms

/-- The response is an exception to `function` with the code `code`. -/
def AnswersCode (resp : List UInt8) (function code : UInt8) : Prop :=
  resp.getD 1 0 = function ||| 0x80 ∧ resp.getD 2 0 = code

/-- The response is a normal one to `function`. -/
def AnswersNormally (resp : List UInt8) (function : UInt8) : Prop := resp.getD 1 0 = function

/-- The configuration registers, which can be written. -/
def IsWritable (regAddr : UInt16) : Prop :=
  regAddr ∈ [mbCfgMarginOn, mbCfgMarginOff, mbCfgSampleMs]

/-- The values a configuration register takes: a period must not be 0. -/
def IsAcceptable (regAddr value : UInt16) : Prop := regAddr = mbCfgSampleMs → value ≠ 0

/-- The answer to a read follows its cause. -/
structure ReadRule (startAddr quantity : UInt16) (resp : List UInt8) : Prop where
  badValue : AnswersCode resp 0x03 modbusExIllegalDataVal ↔
    ¬ (1 ≤ quantity.toNat ∧ quantity.toNat ≤ 125)
  badAddress : AnswersCode resp 0x03 modbusExIllegalDataAddr ↔
    (1 ≤ quantity.toNat ∧ quantity.toNat ≤ 125) ∧
      ∃ i < quantity.toNat, ¬ IsMapped (startAddr.toNat + i)
  normal : AnswersNormally resp 0x03 ↔
    (1 ≤ quantity.toNat ∧ quantity.toNat ≤ 125) ∧
      ∀ i < quantity.toNat, IsMapped (startAddr.toNat + i)

/-- The answer to a write follows its cause. -/
structure WriteRule (regAddr value : UInt16) (resp : List UInt8) : Prop where
  badAddress : AnswersCode resp 0x06 modbusExIllegalDataAddr ↔ ¬ IsWritable regAddr
  badValue : AnswersCode resp 0x06 modbusExIllegalDataVal ↔
    IsWritable regAddr ∧ ¬ IsAcceptable regAddr value
  normal : AnswersNormally resp 0x06 ↔ IsWritable regAddr ∧ IsAcceptable regAddr value

/-- The answer to the accepted request frame follows its cause. -/
structure ExceptionRule (frame resp : List UInt8) : Prop where
  read : frame.getD 1 0 = 0x03 → ReadRule (be16 (frame.getD 2 0) (frame.getD 3 0))
    (be16 (frame.getD 4 0) (frame.getD 5 0)) resp
  write : frame.getD 1 0 = 0x06 → WriteRule (be16 (frame.getD 2 0) (frame.getD 3 0))
    (be16 (frame.getD 4 0) (frame.getD 5 0)) resp

/-- The request is a write of 0 to the sample period. -/
def ZeroPeriod (frame : List UInt8) : Prop :=
  frame.getD 1 0 = 0x06 ∧ be16 (frame.getD 2 0) (frame.getD 3 0) = mbCfgSampleMs ∧
    be16 (frame.getD 4 0) (frame.getD 5 0) = 0

/-! ## The shape of an answer -/

section Shapes

variable {a code : UInt8} {data : List UInt8}

theorem answersCode_exception (function : UInt8) (code' : UInt8) :
    AnswersCode (exceptionResponse ⟨a, function, data⟩ function code) function code' ↔
      code = code' :=
  and_iff_right rfl

/-- An exception is not a normal answer to the functions the parser accepts. -/
theorem not_answersNormally_exception {function : UInt8} (hf : function = 0x03 ∨ function = 0x06) :
    ¬ AnswersNormally (exceptionResponse ⟨a, function, data⟩ function code) function := by
  intro h
  have hbyte : function ||| 0x80 = function := h
  rcases hf with rfl | rfl
  · exact absurd hbyte (by decide)
  · exact absurd hbyte (by decide)

/-- A response with the request's function byte carries no code. -/
theorem not_answersCode_responseBytes {function : UInt8} (hf : function = 0x03 ∨ function = 0x06)
    (payload : List UInt8) : ¬ AnswersCode (responseBytes a function payload) function code := by
  rintro ⟨h, -⟩
  have hbyte : function = function ||| 0x80 := h
  rcases hf with rfl | rfl
  · exact absurd hbyte (by decide)
  · exact absurd hbyte (by decide)

end Shapes

section Rules

variable {F : Type}

/-- Every answer to a read follows its cause. -/
theorem readRule_readResponse (regs : ModbusRegMap) (a d0 d1 d2 d3 : UInt8) :
    ReadRule (be16 d0 d1) (be16 d2 d3) (readResponse regs ⟨a, 0x03, [d0, d1, d2, d3]⟩) := by
  have hcodes : modbusExIllegalDataAddr ≠ modbusExIllegalDataVal := by decide
  rw [readResponse_data]
  by_cases hbad : be16 d2 d3 = 0 ∨ be16 d2 d3 > 125
  · -- the quantity is refused before any address is looked at
    have hrange := (quantity_refused_iff _).1 hbad
    rw [if_pos hbad]
    refine ⟨?_, ?_, ?_⟩
    · exact iff_of_true ((answersCode_exception _ _).2 rfl) hrange
    · refine iff_of_false (fun h => ?_) fun h => hrange h.1
      exact hcodes.symm ((answersCode_exception _ _).1 h)
    · exact iff_of_false (not_answersNormally_exception (Or.inl rfl)) fun h => hrange h.1
  · have hrange := quantity_accepted hbad
    have hsome : (mbRegsRead regs (be16 d0 d1) (be16 d2 d3)
        ((be16 d2 d3).toNat * 2)).isSome = true ↔ _ := isSome_mbRegsRead_iff _ _ _
    rw [if_neg hbad]
    cases hread : mbRegsRead regs (be16 d0 d1) (be16 d2 d3) ((be16 d2 d3).toNat * 2) with
    | none =>
        have hunmapped : ¬ ∀ i < (be16 d2 d3).toNat, IsMapped ((be16 d0 d1).toNat + i) := by
          intro hall
          have := hsome.2 ⟨hrange, by omega, hall⟩
          rw [hread] at this
          cases this
        refine ⟨?_, ?_, ?_⟩
        · refine iff_of_false (fun h => ?_) fun h => h hrange
          exact hcodes ((answersCode_exception _ _).1 h)
        · refine iff_of_true ((answersCode_exception _ _).2 rfl) ⟨hrange, ?_⟩
          simpa only [not_forall, exists_prop] using hunmapped
        · exact iff_of_false (not_answersNormally_exception (Or.inl rfl)) fun h => hunmapped h.2
    | some payload =>
        rw [hread] at hsome
        obtain ⟨-, -, hall⟩ := hsome.1 rfl
        refine ⟨?_, ?_, ?_⟩
        · exact iff_of_false (not_answersCode_responseBytes (Or.inl rfl) _) fun h => h hrange
        · refine iff_of_false (not_answersCode_responseBytes (Or.inl rfl) _) ?_
          rintro ⟨-, i, hi, hunmapped⟩
          exact hunmapped (hall i hi)
        · exact iff_of_true rfl ⟨hrange, hall⟩

/-- The application takes a value exactly when the register can be written and accepts it. -/
theorem modbusWrittenConfig_eq_none_iff (cfg : DeviceConfig) (regAddr value : UInt16) :
    modbusWrittenConfig cfg regAddr value = none ↔
      ¬ (IsWritable regAddr ∧ IsAcceptable regAddr value) := by
  have hon : mbCfgMarginOn ≠ mbCfgSampleMs := by decide
  have hoff : mbCfgMarginOff ≠ mbCfgSampleMs := by decide
  unfold modbusWrittenConfig
  split_ifs with h₁ h₂ h₃ h₄
  · refine iff_of_false id fun h => h ⟨by simp [IsWritable, h₁], fun h₃ => ?_⟩
    exact absurd (h₁.symm.trans h₃) hon
  · refine iff_of_false id fun h => h ⟨by simp [IsWritable, h₂], fun h₃ => ?_⟩
    exact absurd (h₂.symm.trans h₃) hoff
  · exact iff_of_true rfl fun h => h.2 h₃ h₄
  · exact iff_of_false id fun h => h ⟨by simp [IsWritable, h₃], fun _ => h₄⟩
  · exact iff_of_true rfl fun h => by simp [IsWritable, h₁, h₂, h₃] at h

/-- The answer to a write follows its cause unless a period of 0 is written. -/
theorem writeRule_iff (d : FlashDriver F) (n : Node F) (nowMs : UInt32) (a d0 d1 d2 d3 : UInt8) :
    WriteRule (be16 d0 d1) (be16 d2 d3)
        (handleModbusRequest d n nowMs ⟨a, 0x06, [d0, d1, d2, d3]⟩).2 ↔
      ¬ (be16 d0 d1 = mbCfgSampleMs ∧ be16 d2 d3 = 0) := by
  have hcodes : modbusExIllegalDataAddr ≠ modbusExIllegalDataVal := by decide
  have hnone := modbusWrittenConfig_eq_none_iff n.sys.app.cfg (be16 d0 d1) (be16 d2 d3)
  have hzero : (be16 d0 d1 = mbCfgSampleMs ∧ be16 d2 d3 = 0) ↔
      ¬ IsAcceptable (be16 d0 d1) (be16 d2 d3) := by
    simp only [IsAcceptable, ne_eq, Classical.not_imp, not_not]
  rw [answer_write, hzero, not_not]
  by_cases hw : IsWritable (be16 d0 d1)
  · by_cases hv : IsAcceptable (be16 d0 d1) (be16 d2 d3)
    · rw [if_neg (mt hnone.1 (not_not.2 ⟨hw, hv⟩))]
      refine iff_of_true ⟨?_, ?_, ?_⟩ hv
      · exact iff_of_false (not_answersCode_responseBytes (Or.inr rfl) _) (not_not.2 hw)
      · exact iff_of_false (not_answersCode_responseBytes (Or.inr rfl) _) fun h => h.2 hv
      · exact iff_of_true rfl ⟨hw, hv⟩
    · -- the refused value is answered with the code for an address
      rw [if_pos (hnone.2 fun h => hv h.2)]
      refine iff_of_false (fun hrule => ?_) hv
      exact hrule.badAddress.1 ((answersCode_exception _ _).2 rfl) hw
  · have hacceptable : IsAcceptable (be16 d0 d1) (be16 d2 d3) := by
      intro hsample
      exact absurd (by simp [IsWritable, hsample]) hw
    rw [if_pos (hnone.2 fun h => hw h.1)]
    refine iff_of_true ⟨?_, ?_, ?_⟩ hacceptable
    · exact iff_of_true ((answersCode_exception _ _).2 rfl) hw
    · refine iff_of_false (fun h => ?_) fun h => hw h.1
      exact hcodes ((answersCode_exception _ _).1 h)
    · exact iff_of_false (not_answersNormally_exception (Or.inr rfl)) fun h => hw h.1

/-- For every frame that the parser accepts and every node, the answer follows its cause exactly
when the frame does not write 0 to the sample period. -/
theorem exception_rule_iff (d : FlashDriver F) (n : Node F) (nowMs : UInt32) (frame : List UInt8)
    (ownSlaveAddr : UInt8) (out : ModbusRequest)
    (hok : (modbusParseRequest frame ownSlaveAddr out).1 = .ok) :
    ExceptionRule frame
        (handleModbusRequest d n nowMs (modbusParseRequest frame ownSlaveAddr out).2).2 ↔
      ¬ ZeroPeriod frame := by
  obtain ⟨a, f, d0, d1, d2, d3, rfl, hfunc, hreq⟩ := exists_request hok
  rw [hreq]
  have hdiffer : (0x03 : UInt8) ≠ 0x06 := by decide
  rcases hfunc with rfl | rfl
  · refine iff_of_true ⟨fun _ => ?_, fun h => absurd h hdiffer⟩ fun h => hdiffer h.1
    exact readRule_readResponse (syncRegisters n nowMs).regs a d0 d1 d2 d3
  · have hiff := writeRule_iff d n nowMs a d0 d1 d2 d3
    constructor
    · rintro hrule ⟨-, hzero⟩
      exact hiff.1 (hrule.write rfl) hzero
    · intro hne
      exact ⟨fun h => absurd h hdiffer.symm, fun _ => hiff.2 fun hzero => hne ⟨rfl, hzero⟩⟩

end Rules

/-- A write of 2000 to the sample period. -/
def twoSecondWrite : List UInt8 := [0x01, 0x06, 0x01, 0x02, 0x07, 0xD0, 0x2A, 0x5A]

theorem exception_rule_iff_twoSeconds :
    ExceptionRule twoSecondWrite
      (handleModbusRequest stm32f1Flash bootedNode 0
        (modbusParseRequest twoSecondWrite 1 ⟨0, 0, []⟩).2).2 :=
  (exception_rule_iff stm32f1Flash bootedNode 0 twoSecondWrite 1 ⟨0, 0, []⟩ (by decide +kernel)).2
    (by rintro ⟨-, -, ⟨⟩⟩)

/-- A write of 0 to the sample period. -/
def zeroPeriodWrite : List UInt8 := [0x01, 0x06, 0x01, 0x02, 0x00, 0x00, 0x29, 0xF6]

/-- It is answered with the code for an illegal address. -/
theorem zero_period_answered_as_address :
    ¬ ∀ (F : Type) (d : FlashDriver F) (n : Node F) (nowMs : UInt32) (frame : List UInt8)
      (ownSlaveAddr : UInt8) (out : ModbusRequest),
      (modbusParseRequest frame ownSlaveAddr out).1 = .ok →
      ExceptionRule frame
        (handleModbusRequest d n nowMs (modbusParseRequest frame ownSlaveAddr out).2).2 := by
  intro h
  have hrule := h Stm32f1Flash stm32f1Flash bootedNode 0 zeroPeriodWrite 1 ⟨0, 0, []⟩
    (by decide +kernel)
  have hwrite := (hrule.write rfl).badAddress
  have hcode : AnswersCode (handleModbusRequest stm32f1Flash bootedNode 0
      (modbusParseRequest zeroPeriodWrite 1 ⟨0, 0, []⟩).2).2 0x06 modbusExIllegalDataAddr :=
    ⟨by decide +kernel, by decide +kernel⟩
  have hwritable : IsWritable (be16 0x01 0x02) := by
    unfold IsWritable
    decide
  exact hwrite.1 hcode hwritable

end ClimateNode.Application
