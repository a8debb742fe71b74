import ClimateNode.Service.ModbusFrames

/-!
# The response builders on their buffer

`closeFrame` is how a frame ends wherever one is put together: the checksum over the bytes so far,
low byte first, right behind them. `modbus_build_exception` on a buffer writes the bytes that
`modbusBuildException` lists.

`modbus_build_response` takes the payload as a pointer and a length. Its capacity check treats a
null pointer as an empty payload, but the checksum and the trailer are placed by the length alone.
`WellBuilt` is the contract: a returned frame is inside the buffer and decodes to the arguments, and
0 is returned only where no frame fits. The builder keeps it, without leaving the buffer, exactly
when the buffer is refused, the pointer is not null or the length is 0 (`response_builder_iff`).
-/

set_option autoImplicit false

namespace ClimateNode.Service

open ClimateNode.Machine

/-! ## Closing a frame -/

section Closing

variable {outCap : Nat} {outBuf : Vector UInt8 outCap} {written : List UInt8}

/-- The checksum of the first `len` bytes is written behind them; the length and the buffer. -/
def closeFrame (outBuf : Vector UInt8 outCap) (len : Nat) :
    Checked (Nat × Vector UInt8 outCap) := do
  let crc := modbusCrc16 (← readPrefix outBuf len)
  let outBuf ← writeAt outBuf len (crc &&& 0xFF).toUInt8
  let outBuf ← writeAt outBuf (len + 1) (crc >>> 8).toUInt8
  return (len + 2, outBuf)

/-- `modbus_build_exception` on its buffer. -/
def modbusBuildExceptionInto (slaveAddr originalFunc exceptionCode : UInt8)
    (outBuf : Vector UInt8 outCap) : Checked (Nat × Vector UInt8 outCap) := do
  if outCap < 5 then return (0, outBuf)
  let outBuf ← writeAt outBuf 0 slaveAddr
  let outBuf ← writeAt outBuf 1 (originalFunc ||| 0x80)
  let outBuf ← writeAt outBuf 2 exceptionCode
  closeFrame outBuf 3

theorem closeFrame_starts (h : Starts outBuf written) (len : Nat) (hlen : written.length = len)
    (hroom : len + 2 ≤ outCap) :
    ∃ outBuf', closeFrame outBuf len = .ok (len + 2, outBuf') ∧
      Starts outBuf' (written ++ crcTail (modbusCrc16 written)) := by
  obtain ⟨b₁, h₁, hs₁⟩ := writeAt_starts h hlen (by omega) (modbusCrc16 written &&& 0xFF).toUInt8
  obtain ⟨b₂, h₂, hs₂⟩ := writeAt_starts hs₁ (i := len + 1) (by simp [hlen]) (by omega)
    (modbusCrc16 written >>> 8).toUInt8
  refine ⟨b₂, ?_, by simpa [crcTail] using hs₂⟩
  simp only [closeFrame, readPrefix_starts h hlen, checked_ok_bind, h₁, h₂, checked_pure]

/-- Three bytes written one after the other at the start of a buffer. -/
theorem writeHeader_starts (outBuf : Vector UInt8 outCap) (h3 : 3 ≤ outCap) (a b c : UInt8) :
    ∃ b₁ b₂ b₃, writeAt outBuf 0 a = .ok b₁ ∧ writeAt b₁ 1 b = .ok b₂ ∧ writeAt b₂ 2 c = .ok b₃ ∧
      Starts b₃ [a, b, c] := by
  obtain ⟨b₁, h₁, hs₁⟩ := writeAt_starts (starts_nil outBuf) (i := 0) rfl (by omega) a
  obtain ⟨b₂, h₂, hs₂⟩ := writeAt_starts hs₁ (i := 1) rfl (by omega) b
  obtain ⟨b₃, h₃, hs₃⟩ := writeAt_starts hs₂ (i := 2) rfl (by omega) c
  exact ⟨b₁, b₂, b₃, h₁, h₂, h₃, hs₃⟩

/-- Where it fits, an exception is written whatever the buffer held. -/
theorem modbusBuildExceptionInto_starts (slaveAddr originalFunc exceptionCode : UInt8)
    (outBuf : Vector UInt8 outCap) (h5 : 5 ≤ outCap) :
    ∃ outBuf', modbusBuildExceptionInto slaveAddr originalFunc exceptionCode outBuf =
        .ok (5, outBuf') ∧
      Starts outBuf' (modbusBuildException slaveAddr originalFunc exceptionCode outCap) := by
  obtain ⟨b₁, b₂, b₃, h₁, h₂, h₃, hs₃⟩ := writeHeader_starts outBuf (by omega) slaveAddr
    (originalFunc ||| 0x80) exceptionCode
  obtain ⟨b₄, h₄, hs₄⟩ := closeFrame_starts hs₃ 3 rfl h5
  refine ⟨b₄, ?_, ?_⟩
  · simp only [modbusBuildExceptionInto, if_neg (Nat.not_lt.2 h5), h₁, h₂, h₃, h₄,
      checked_ok_bind]
  · rw [modbusBuildException, if_neg (Nat.not_lt.2 h5)]
    exact hs₄

end Closing

/-! ## The contract of `modbus_build_response` -/

/-- The payload that a pointer and a length stand for; a null pointer stands for none. -/
def payloadBytes {payloadLen : Nat} (payload : Option (Vector UInt8 payloadLen)) : List UInt8 :=
  (payload.map Vector.toList).getD []

/-- Address, function and payload of a frame, as the request parser takes them out. -/
def decodeFrame (frame : List UInt8) : UInt8 × UInt8 × List UInt8 :=
  (frame.getD 0 0, frame.getD 1 0, (frame.drop 2).take (frame.length - 4))

/-- The length `n` and the buffer that the builder returns for the given arguments are right. -/
structure WellBuilt (slaveAddr function : UInt8) {payloadLen outCap : Nat}
    (payload : Option (Vector UInt8 payloadLen)) (n : Nat) (outBuf : Vector UInt8 outCap) :
    Prop where
  inside : 0 < n → n ≤ outCap
  valid : 0 < n → modbusFrameHasValidCrc (outBuf.toList.take n) = true
  decodes : 0 < n →
    decodeFrame (outBuf.toList.take n) = (slaveAddr, function, payloadBytes payload)
  refused : n = 0 → outCap < 5 ∨ outCap < (payloadBytes payload).length + 4

/-- The builder returns, without an access outside its buffer, and its result is right. -/
def BuildsWell (slaveAddr function : UInt8) (payloadLen : Nat)
    (payload : Option (Vector UInt8 payloadLen)) {outCap : Nat} (outBuf : Vector UInt8 outCap) :
    Prop :=
  ∃ n outBuf', modbusBuildResponse slaveAddr function payloadLen payload outBuf =
      .ok (n, outBuf') ∧
    WellBuilt slaveAddr function payload n outBuf'

section Cases

variable {slaveAddr function : UInt8} {outCap : Nat} {outBuf : Vector UInt8 outCap}

/-- The payload lies between the header and the checksum. -/
theorem decodeFrame_responseBytes (slaveAddr function : UInt8) (payload : List UInt8) :
    decodeFrame (responseBytes slaveAddr function payload) = (slaveAddr, function, payload) := by
  rw [decodeFrame, length_responseBytes, Nat.add_sub_cancel]
  simp [responseBytes]

theorem modbusFrameHasValidCrc_responseBytes (slaveAddr function : UInt8) (payload : List UInt8) :
    modbusFrameHasValidCrc (responseBytes slaveAddr function payload) = true :=
  (modbusFrameHasValidCrc_iff _).2 ⟨[slaveAddr, function] ++ payload, by simp, rfl⟩

/-- A buffer that starts with the frame of the arguments is a right result. -/
theorem wellBuilt_of_starts {payloadLen n : Nat} {payload : Option (Vector UInt8 payloadLen)}
    (h : Starts outBuf (responseBytes slaveAddr function (payloadBytes payload)))
    (hn : n = (payloadBytes payload).length + 4) :
    WellBuilt slaveAddr function payload n outBuf := by
  have hlen : (responseBytes slaveAddr function (payloadBytes payload)).length = n := by
    rw [length_responseBytes, hn]
  have htake : outBuf.toList.take n = responseBytes slaveAddr function (payloadBytes payload) := by
    rw [← hlen]
    exact h.bytes
  constructor
  · intro _
    rw [← hlen]
    exact h.room
  · intro _
    rw [htake]
    exact modbusFrameHasValidCrc_responseBytes slaveAddr function _
  · intro _
    rw [htake]
    exact decodeFrame_responseBytes slaveAddr function _
  · intro hzero
    omega

/-- A capacity below 5 is refused before anything is written. -/
theorem buildsWell_of_small (payloadLen : Nat) (payload : Option (Vector UInt8 payloadLen))
    (hsmall : outCap < 5) : BuildsWell slaveAddr function payloadLen payload outBuf := by
  refine ⟨0, outBuf, ?_, nofun, nofun, nofun, fun _ => Or.inl hsmall⟩
  rw [modbusBuildResponse, if_pos hsmall]
  rfl

/-- A payload that does not fit is refused after the header is written. -/
theorem buildsWell_of_long {payloadLen : Nat} (payload : Vector UInt8 payloadLen)
    (h5 : 5 ≤ outCap) (hlong : outCap < payloadLen + 4) :
    BuildsWell slaveAddr function payloadLen (some payload) outBuf := by
  obtain ⟨b₁, h₁, hs₁⟩ := writeAt_starts (starts_nil outBuf) (i := 0) rfl (by omega) slaveAddr
  obtain ⟨b₂, h₂, -⟩ := writeAt_starts hs₁ (i := 1) rfl (by omega) function
  have hneeded : (if (some payload).isSome ∧ payloadLen > 0 then 2 + payloadLen + 2 else 2 + 2) >
      outCap := by
    rw [if_pos ⟨rfl, by omega⟩]
    omega
  refine ⟨0, b₂, ?_, nofun, nofun, nofun, fun _ => Or.inr ?_⟩
  · simp only [modbusBuildResponse, if_neg (Nat.not_lt.2 h5), h₁, h₂, checked_ok_bind,
      if_pos hneeded, checked_pure]
  · simpa [payloadBytes] using hlong

/-- A payload that fits is framed. -/
theorem buildsWell_of_fits {payloadLen : Nat} (payload : Vector UInt8 payloadLen)
    (h5 : 5 ≤ outCap) (hfits : payloadLen + 4 ≤ outCap) :
    BuildsWell slaveAddr function payloadLen (some payload) outBuf := by
  obtain ⟨outBuf', hbuild, hstarts⟩ :=
    modbusBuildResponse_starts slaveAddr function payload h5 hfits outBuf
  refine ⟨_, outBuf', hbuild, wellBuilt_of_starts hstarts ?_⟩
  simp [payloadBytes]

/-- With length 0 a null pointer is an empty payload. -/
theorem modbusBuildResponse_null_zero :
    modbusBuildResponse slaveAddr function 0 none outBuf =
      modbusBuildResponse slaveAddr function 0 (some #v[]) outBuf := by
  simp only [modbusBuildResponse, Option.isSome_none, Option.isSome_some, Nat.lt_irrefl, gt_iff_lt,
    and_false, if_false, Option.map_none, Option.map_some, Option.getD_none, Option.getD_some]
  rfl

/-- With a null pointer and a positive length the builder frames what the buffer held, or runs past
its end. -/
theorem not_buildsWell_of_null {payloadLen : Nat} (h5 : 5 ≤ outCap) (hpos : 0 < payloadLen) :
    ¬ BuildsWell slaveAddr function payloadLen none outBuf := by
  rintro ⟨n, outBuf', hbuild, hright⟩
  obtain ⟨b₁, h₁, hs₁⟩ := writeAt_starts (starts_nil outBuf) (i := 0) rfl (by omega) slaveAddr
  obtain ⟨b₂, h₂, -⟩ := writeAt_starts hs₁ (i := 1) rfl (by omega) function
  have hneeded : ¬ 2 + 2 > outCap := by omega
  simp only [modbusBuildResponse, if_neg (Nat.not_lt.2 h5), h₁, h₂, checked_ok_bind,
    Option.isSome_none, Bool.false_eq_true, false_and, if_false, if_neg hneeded, Option.map_none,
    Option.getD_none, copyPayload, checked_pure] at hbuild
  obtain ⟨body, -, hbuild⟩ := checked_bind_eq_ok hbuild
  obtain ⟨b₃, -, hbuild⟩ := checked_bind_eq_ok hbuild
  obtain ⟨b₄, -, hbuild⟩ := checked_bind_eq_ok hbuild
  obtain ⟨rfl, rfl⟩ := Prod.mk.inj (Except.ok.inj hbuild)
  -- the frame in the buffer is longer than one without payload
  have hinside := hright.inside (by omega)
  have hdecodes := hright.decodes (by omega)
  have hpayload := congrArg (fun decoded => decoded.2.2.length) hdecodes
  simp only [decodeFrame, payloadBytes, Option.map_none, Option.getD_none, List.length_nil,
    List.length_take, List.length_drop, Vector.length_toList] at hpayload
  omega

end Cases

/-- For every address, function, payload, length and buffer, the builder stays inside its buffer and
keeps its contract exactly when the buffer has no room for any frame, the payload pointer is not
null, or the payload length is 0. -/
theorem response_builder_iff (slaveAddr function : UInt8) (payloadLen : Nat)
    (payload : Option (Vector UInt8 payloadLen)) {outCap : Nat} (outBuf : Vector UInt8 outCap) :
    BuildsWell slaveAddr function payloadLen payload outBuf ↔
      outCap < 5 ∨ payload.isSome = true ∨ payloadLen = 0 := by
  by_cases hsmall : outCap < 5
  · exact iff_of_true (buildsWell_of_small payloadLen payload hsmall) (Or.inl hsmall)
  have h5 := Nat.not_lt.1 hsmall
  cases payload with
  | some payload =>
      refine iff_of_true ?_ (Or.inr (Or.inl rfl))
      by_cases hfits : payloadLen + 4 ≤ outCap
      · exact buildsWell_of_fits payload h5 hfits
      · exact buildsWell_of_long payload h5 (Nat.not_le.1 hfits)
  | none =>
      cases payloadLen with
      | zero =>
          refine iff_of_true ?_ (Or.inr (Or.inr rfl))
          have hempty : BuildsWell slaveAddr function 0 (some #v[]) outBuf :=
            buildsWell_of_fits #v[] h5 (by omega)
          obtain ⟨n, outBuf', hbuild, hright⟩ := hempty
          refine ⟨n, outBuf', modbusBuildResponse_null_zero.trans hbuild, ?_⟩
          exact ⟨hright.inside, hright.valid, hright.decodes, hright.refused⟩
      | succ payloadLen =>
          refine iff_of_false (not_buildsWell_of_null h5 (Nat.succ_pos payloadLen)) ?_
          rintro (h | h | h)
          · exact hsmall h
          · cases h
          · cases h

/-- A null pointer with length 2 passes the check for a buffer of five bytes, and the checksum is
written past its end. -/
theorem response_builder_overruns :
    ¬ ∀ (slaveAddr function : UInt8) (payloadLen : Nat)
      (payload : Option (Vector UInt8 payloadLen)) (outCap : Nat) (outBuf : Vector UInt8 outCap),
      payloadLen ≤ 65536 → BuildsWell slaveAddr function payloadLen payload outBuf := by
  intro h
  obtain ⟨n, outBuf', hbuild, -⟩ := h 1 0x03 2 none 5 (Vector.replicate 5 0) (by decide)
  have hfault : modbusBuildResponse 1 0x03 2 none (Vector.replicate 5 0) =
      .error .outOfBounds := by
    decide +kernel
  rw [hfault] at hbuild
  cases hbuild

end ClimateNode.Service
