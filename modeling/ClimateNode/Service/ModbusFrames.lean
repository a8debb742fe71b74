import ClimateNode.Machine.CrcLinear
import ClimateNode.Machine.WrittenPrefix
import ClimateNode.Service.Modbus
import Mathlib.Data.List.Basic

/-!
# Frames, their checksum and the parser

A frame has a valid checksum exactly when it is its body followed by the body's checksum, and
exactly when the remainder of all its bits is zero. The first form relates the parser to the frame
builder (`parse_accepts_built_frames`), the second says which line errors the checksum detects
(`frame_crc_detects_errors`).
-/

set_option autoImplicit false

namespace ClimateNode.Service

open ClimateNode.Machine

/-! ## The checksum bytes -/

section Tail

/-- The checksum that the last two bytes of a frame carry. -/
def receivedCrc (lo hi : UInt8) : UInt16 := lo.toUInt16 ||| (hi.toUInt16 <<< 8)

/-- The two bytes do not overlap. -/
theorem toNat_receivedCrc (lo hi : UInt8) :
    (receivedCrc lo hi).toNat = lo.toNat + 256 * hi.toNat := by
  have hlo := lo.toNat_lt
  have hhi := hi.toNat_lt
  have hor := Nat.two_pow_add_eq_or_of_lt (i := 8) (b := lo.toNat) (by omega) hi.toNat
  rw [receivedCrc, UInt16.toNat_or, UInt16.toNat_shiftLeft, UInt8.toNat_toUInt16,
    UInt8.toNat_toUInt16]
  show lo.toNat ||| hi.toNat <<< 8 % 65536 = _
  rw [Nat.shiftLeft_eq, Nat.mod_eq_of_lt (by omega), Nat.or_comm, Nat.mul_comm hi.toNat, ← hor]
  omega

/-- The transmitted checksum bytes carry the checksum, and no other bytes do. -/
theorem receivedCrc_eq_iff (crc : UInt16) (lo hi : UInt8) :
    crc = receivedCrc lo hi ↔ crcTail crc = [lo, hi] := by
  have hx := crc.toNat_lt
  have hlo := lo.toNat_lt
  have hhi := hi.toNat_lt
  have hlow : (crc &&& 0xFF).toUInt8.toNat = crc.toNat % 256 := by
    rw [UInt16.toNat_toUInt8, UInt16.toNat_and]
    show (crc.toNat &&& 2 ^ 8 - 1) % 256 = _
    rw [Nat.and_two_pow_sub_one_eq_mod, Nat.mod_mod]
  have hhigh : (crc >>> 8).toUInt8.toNat = crc.toNat / 256 := by
    rw [UInt16.toNat_toUInt8, UInt16.toNat_shiftRight]
    show crc.toNat >>> 8 % 256 = _
    rw [Nat.shiftRight_eq_div_pow, Nat.mod_eq_of_lt (by omega)]
  rw [crcTail, List.cons_eq_cons, List.cons_eq_cons, ← UInt16.toNat_inj, ← UInt8.toNat_inj,
    ← UInt8.toNat_inj, hlow, hhigh, toNat_receivedCrc]
  constructor
  · intro h
    exact ⟨by omega, by omega, rfl⟩
  · rintro ⟨h₁, h₂, -⟩
    omega

end Tail

/-- A frame of at least two bytes is a body and two checksum bytes. -/
theorem exists_body {frame : List UInt8} (h : 2 ≤ frame.length) :
    ∃ body lo hi, frame = body ++ [lo, hi] := by
  have hdrop : (frame.drop (frame.length - 2)).length = 2 := by
    rw [List.length_drop]
    omega
  obtain ⟨lo, hi, hlast⟩ := List.length_eq_two.1 hdrop
  exact ⟨frame.take (frame.length - 2), lo, hi, by rw [← hlast, List.take_append_drop]⟩

theorem modbusFrameHasValidCrc_append (body : List UInt8) (lo hi : UInt8) :
    modbusFrameHasValidCrc (body ++ [lo, hi]) = true ↔
      0 < body.length ∧ modbusCrc16 body = receivedCrc lo hi := by
  have hlen : (body ++ [lo, hi]).length = body.length + 2 := by
    rw [List.length_append]
    rfl
  have hlo : (body ++ [lo, hi]).getD body.length 0 = lo := by simp
  have hhi : (body ++ [lo, hi]).getD (body.length + 1) 0 = hi := by simp
  simp only [modbusFrameHasValidCrc, hlen, Nat.add_sub_cancel, List.take_left]
  rw [show body.length + 2 - 1 = body.length + 1 by omega, hlo, hhi]
  cases body with
  | nil => simp
  | cons b body => simp [receivedCrc]

theorem length_of_modbusFrameHasValidCrc {frame : List UInt8}
    (h : modbusFrameHasValidCrc frame = true) : 3 ≤ frame.length := by
  by_contra hshort
  rw [modbusFrameHasValidCrc, if_pos (by omega)] at h
  cases h

/-- A frame has a valid checksum when it ends in the checksum of what comes before. -/
theorem modbusFrameHasValidCrc_iff (frame : List UInt8) :
    modbusFrameHasValidCrc frame = true ↔
      ∃ body, 0 < body.length ∧ frame = body ++ crcTail (modbusCrc16 body) := by
  constructor
  · intro h
    obtain ⟨body, lo, hi, rfl⟩ :=
      exists_body (Nat.le_of_succ_le (length_of_modbusFrameHasValidCrc h))
    obtain ⟨hpos, hcrc⟩ := (modbusFrameHasValidCrc_append body lo hi).1 h
    exact ⟨body, hpos, by rw [(receivedCrc_eq_iff _ lo hi).1 hcrc]⟩
  · rintro ⟨body, hpos, rfl⟩
    exact (modbusFrameHasValidCrc_append body _ _).2 ⟨hpos, (receivedCrc_eq_iff _ _ _).2 rfl⟩

/-! ## Line errors -/

section LineErrors

/-- The checksum goes over the line low byte first, so its bits are in line order. -/
theorem lowBits_receivedCrc (lo hi : UInt8) : lowBits 16 (receivedCrc lo hi).toBitVec =
    lowBits 8 lo.toBitVec ++ lowBits 8 hi.toBitVec := by
  have hbit : ∀ i, i < 16 → (receivedCrc lo hi).toBitVec.getLsbD i =
      (lo.toBitVec.getLsbD i || (decide (8 ≤ i) && hi.toBitVec.getLsbD (i - 8))) := by
    intro i hi
    by_cases h : 8 ≤ i
    · simp [receivedCrc, hi, h, Nat.not_lt.2 h]
    · simp [receivedCrc, hi, h, Nat.not_le.1 h]
  apply List.ext_getElem (by simp)
  intro i h₁ h₂
  have hi16 : i < 16 := by simpa using h₁
  simp only [lowBits, List.getElem_map, List.getElem_range, List.getElem_append, List.length_map,
    List.length_range, hbit i hi16]
  by_cases h : i < 8
  · simp [h, Nat.not_le.2 h]
  · simp [h, Nat.not_lt.1 h]

/-- A frame is valid when its whole image leaves no remainder. -/
theorem modbusFrameHasValidCrc_iff_remainder {frame : List UInt8} (h : 3 ≤ frame.length) :
    modbusFrameHasValidCrc frame = true ↔
      crcBits 0xA001#16 0xFFFF#16 (lineBits frame) = 0#16 := by
  obtain ⟨body, lo, hi, rfl⟩ := exists_body (Nat.le_of_succ_le h)
  have hpos : 0 < body.length := by
    rw [List.length_append] at h
    exact Nat.lt_of_succ_lt_succ (Nat.lt_of_succ_lt_succ h)
  have hbits : lineBits (body ++ [lo, hi]) =
      lineBits body ++ lowBits 16 (receivedCrc lo hi).toBitVec := by
    rw [lowBits_receivedCrc]
    simp [lineBits]
  have hbody : crcBits 0xA001#16 0xFFFF#16 (lineBits body) = (modbusCrc16 body).toBitVec := by
    rw [← crcBytes_eq_crcBits (by omega)]
    rfl
  rw [modbusFrameHasValidCrc_append, hbits, crcBits_append, hbody, crcBits_lowBits (by omega),
    iterate_crcShift_eq_zero_iff (by omega) (by decide), BitVec.xor_eq_zero_iff,
    UInt16.toBitVec_inj]
  · exact and_iff_right hpos
  · intro i hi
    exact BitVec.getLsbD_of_ge _ i hi

/-- The checksum detects every burst of at most 16 bits and every error of odd weight, wherever in
the frame it falls. -/
theorem frame_crc_detects_errors (frame error : List UInt8) (hlen : error.length = frame.length)
    (hvalid : modbusFrameHasValidCrc frame = true) (hnz : ∃ byte ∈ error, byte ≠ 0)
    (herr : (∃ k, ∀ i, (lineBits error)[i]? = some true → k ≤ i ∧ i < k + 16) ∨
      Odd ((lineBits error).count true)) :
    modbusFrameHasValidCrc (List.zipWith (· ^^^ ·) frame error) = false := by
  have h3 := length_of_modbusFrameHasValidCrc hvalid
  have hlen3 : 3 ≤ (List.zipWith (· ^^^ ·) frame error).length := by
    rw [List.length_zipWith, hlen, Nat.min_self]
    exact h3
  have hset : true ∈ lineBits error := true_mem_lineBits.2 hnz
  -- neither kind of error is divisible by the polynomial
  have herror : crcBits 0xA001#16 0#16 (lineBits error) ≠ 0#16 := by
    rcases herr with ⟨k, hburst⟩ | hodd
    · exact crcBits_burst_ne_zero (by omega) (by decide) hburst hset
    · exact crcBits_odd_ne_zero (by omega) (by decide) hodd
  have hframe := (modbusFrameHasValidCrc_iff_remainder h3).1 hvalid
  have hsum := crcBits_xor (by omega) 0xA001#16 (lineBits frame) (lineBits error) 0xFFFF#16 0#16
    (by rw [length_lineBits, length_lineBits, hlen])
  rw [← Bool.not_eq_true, modbusFrameHasValidCrc_iff_remainder hlen3,
    lineBits_zipWith frame error hlen.symm, ← BitVec.xor_zero (x := 0xFFFF#16), hsum, hframe,
    BitVec.zero_xor]
  exact herror

/-- One bit of the address byte of a read request for the relay register. -/
theorem frame_crc_detects_errors_flip :
    modbusFrameHasValidCrc
      (List.zipWith (· ^^^ ·) [0x01, 0x03, 0x00, 0x03, 0x00, 0x01, 0x74, 0x0A]
        [0x10, 0, 0, 0, 0, 0, 0, 0]) = false :=
  frame_crc_detects_errors [0x01, 0x03, 0x00, 0x03, 0x00, 0x01, 0x74, 0x0A]
    [0x10, 0, 0, 0, 0, 0, 0, 0] rfl (by decide +kernel) (by decide) (Or.inr (by decide))

end LineErrors

/-! ## The frame builder -/

section Builder

variable {outCap : Nat} {outBuf : Vector UInt8 outCap} {written : List UInt8}

theorem copyPayload_starts (payload : List UInt8) (h : Starts outBuf written) {i : Nat}
    (hi : written.length = i) (hroom : i + payload.length ≤ outCap) :
    ∃ outBuf', copyPayload outBuf i payload = .ok outBuf' ∧
      Starts outBuf' (written ++ payload) := by
  induction payload generalizing outBuf written i with
  | nil => exact ⟨outBuf, rfl, by rwa [List.append_nil]⟩
  | cons byte rest ih =>
      rw [List.length_cons] at hroom
      obtain ⟨next, hnext, hstarts⟩ := writeAt_starts h hi (by omega) byte
      obtain ⟨last, hlast, hall⟩ := ih (i := i + 1) hstarts (by simp [hi]) (by omega)
      refine ⟨last, ?_, by rwa [List.append_assoc, List.singleton_append] at hall⟩
      rw [copyPayload, hnext, checked_ok_bind, hlast]

theorem readPrefix_starts (h : Starts outBuf written) {i : Nat} (hi : written.length = i) :
    readPrefix outBuf i = .ok written := by
  subst hi
  rw [readPrefix, if_pos h.room, h.bytes]
  rfl

/-- The frame of a response: address, function, payload, checksum. -/
def responseBytes (slaveAddr function : UInt8) (payload : List UInt8) : List UInt8 :=
  [slaveAddr, function] ++ payload ++ crcTail (modbusCrc16 ([slaveAddr, function] ++ payload))

/-- Where the frame fits, the builder writes it and returns its length. -/
theorem modbusBuildResponse_starts (slaveAddr function : UInt8) {n : Nat} (payload : Vector UInt8 n)
    (h5 : 5 ≤ outCap) (hfits : n + 4 ≤ outCap) (outBuf : Vector UInt8 outCap) :
    ∃ outBuf', modbusBuildResponse slaveAddr function n (some payload) outBuf =
        .ok (n + 4, outBuf') ∧
      Starts outBuf' (responseBytes slaveAddr function payload.toList) := by
  have hbody : ([slaveAddr, function] ++ payload.toList).length = 2 + n := by
    simp
    omega
  obtain ⟨b₁, h₁, hs₁⟩ := writeAt_starts (starts_nil outBuf) (i := 0) rfl (by omega) slaveAddr
  obtain ⟨b₂, h₂, hs₂⟩ := writeAt_starts hs₁ (i := 1) rfl (by omega) function
  obtain ⟨b₃, h₃, hs₃⟩ : ∃ b₃, copyPayload b₂ 2 payload.toList = .ok b₃ ∧
      Starts b₃ ([slaveAddr, function] ++ payload.toList) :=
    copyPayload_starts payload.toList hs₂ rfl (by simp; omega)
  have hread := readPrefix_starts hs₃ hbody
  obtain ⟨b₄, h₄, hs₄⟩ := writeAt_starts hs₃ hbody (by omega)
    (modbusCrc16 ([slaveAddr, function] ++ payload.toList) &&& 0xFF).toUInt8
  obtain ⟨b₅, h₅, hs₅⟩ := writeAt_starts hs₄ (i := 2 + n + 1)
    (by rw [List.length_append, hbody]; rfl) (by omega)
    (modbusCrc16 ([slaveAddr, function] ++ payload.toList) >>> 8).toUInt8
  have hneeded : ¬ (if (some payload).isSome ∧ n > 0 then 2 + n + 2 else 2 + 2) > outCap := by
    split <;> omega
  refine ⟨b₅, ?_, by simpa [responseBytes, crcTail] using hs₅⟩
  simp only [modbusBuildResponse, if_neg (Nat.not_lt.2 h5), if_neg hneeded, Option.map_some,
    Option.getD_some, h₁, h₂, h₃, hread, h₄, h₅, checked_ok_bind]
  exact congrArg (fun len => Except.ok (len, b₅)) (by omega)

/-- The frame that `modbus_build_response` leaves at the start of the buffer. -/
def builtFrame (slaveAddr function : UInt8) {n : Nat} (payload : Vector UInt8 n)
    (outBuf : Vector UInt8 outCap) : Checked (List UInt8) := do
  let r ← modbusBuildResponse slaveAddr function n (some payload) outBuf
  return r.2.toList.take r.1

theorem length_responseBytes (slaveAddr function : UInt8) (payload : List UInt8) :
    (responseBytes slaveAddr function payload).length = payload.length + 4 := by
  simp [responseBytes, crcTail]

theorem builtFrame_eq (slaveAddr function : UInt8) {n : Nat} (payload : Vector UInt8 n)
    (h5 : 5 ≤ outCap) (hfits : n + 4 ≤ outCap) (outBuf : Vector UInt8 outCap) :
    builtFrame slaveAddr function payload outBuf =
      .ok (responseBytes slaveAddr function payload.toList) := by
  obtain ⟨outBuf', hbuild, hstarts⟩ :=
    modbusBuildResponse_starts slaveAddr function payload h5 hfits outBuf
  have hlen : (responseBytes slaveAddr function payload.toList).length = n + 4 := by
    rw [length_responseBytes, Vector.length_toList]
  rw [builtFrame, hbuild, checked_ok_bind, ← hlen, hstarts.bytes]
  rfl

end Builder

/-! ## The parser -/

section Parser

/-- The parser accepts the frames of eight bytes with a valid checksum, an address of this node
and one of the two functions. -/
theorem modbusParseRequest_eq_ok_iff (frame : List UInt8) (ownSlaveAddr : UInt8)
    (out : ModbusRequest) :
    (modbusParseRequest frame ownSlaveAddr out).1 = .ok ↔
      frame.length = 8 ∧ modbusFrameHasValidCrc frame = true ∧
        (frame.getD 0 0 = ownSlaveAddr ∨ frame.getD 0 0 = 0) ∧
        (frame.getD 1 0 = 0x03 ∨ frame.getD 1 0 = 0x06) := by
  simp only [modbusParseRequest]
  -- every branch but the innermost one fails one of the four conditions
  split_ifs with hshort hcrc haddr hfunc hlen
  · exact iff_of_false (by rintro ⟨⟩) fun h => by omega
  · exact iff_of_false (by rintro ⟨⟩) fun h => by simp [h.2.1] at hcrc
  · exact iff_of_false (by rintro ⟨⟩) fun h => h.2.2.1.elim haddr.1 haddr.2
  · exact iff_of_false (by rintro ⟨⟩) fun h => hlen (by rw [h.1])
  · refine iff_of_true rfl ⟨by omega, by simpa using hcrc, ?_, hfunc⟩
    exact (not_and_or.1 haddr).imp not_not.1 not_not.1
  · exact iff_of_false (by rintro ⟨⟩) fun h => hfunc h.2.2.2

/-- A request with one of the two functions and four data bytes. -/
def WellShaped (req : ModbusRequest) : Prop :=
  (req.function = 0x03 ∨ req.function = 0x06) ∧ req.data.length = 4

/-- The parser writes `*out` before its last two checks, whatever they find: of the codes after
that point, `MODBUS_OK` is the one for a well-shaped request. -/
theorem modbusParseRequest_out (frame : List UInt8) (ownSlaveAddr : UInt8) (out : ModbusRequest) :
    ((modbusParseRequest frame ownSlaveAddr out).1 ∉
        [ModbusParseErr.ok, .unsupportedFunc, .badLength] →
      (modbusParseRequest frame ownSlaveAddr out).2 = out) ∧
    ((modbusParseRequest frame ownSlaveAddr out).1 ∈
        [ModbusParseErr.ok, .unsupportedFunc, .badLength] →
      ((modbusParseRequest frame ownSlaveAddr out).1 = .ok ↔
        WellShaped (modbusParseRequest frame ownSlaveAddr out).2)) := by
  have hlen : ((frame.drop 2).take (frame.length - 4)).length = frame.length - 4 := by
    rw [List.length_take, List.length_drop]
    omega
  simp only [modbusParseRequest]
  split_ifs with hshort hcrc haddr hfunc hpayload
  · exact ⟨fun _ => rfl, fun h => by simp at h⟩
  · exact ⟨fun _ => rfl, fun h => by simp at h⟩
  · exact ⟨fun _ => rfl, fun h => by simp at h⟩
  · refine ⟨fun h => by simp at h, fun _ => iff_of_false (by rintro ⟨⟩) fun hshape => ?_⟩
    exact hpayload (hlen.symm.trans hshape.2)
  · exact ⟨fun h => by simp at h, fun _ => iff_of_true rfl ⟨hfunc, hlen.trans (not_not.1 hpayload)⟩⟩
  · exact ⟨fun h => by simp at h, fun _ => iff_of_false (by rintro ⟨⟩) fun hshape => hfunc hshape.1⟩

/-- The codes for the frames long enough to carry a checksum, in the order of the checks. -/
theorem modbusParseRequest_code {frame : List UInt8} (h5 : 5 ≤ frame.length) (ownSlaveAddr : UInt8)
    (out : ModbusRequest) :
    (modbusParseRequest frame ownSlaveAddr out).1 =
      if modbusFrameHasValidCrc frame = false then .crc
      else if frame.getD 0 0 ≠ ownSlaveAddr ∧ frame.getD 0 0 ≠ 0 then .badAddr
      else if frame.getD 1 0 = 0x03 ∨ frame.getD 1 0 = 0x06 then
        if frame.length = 8 then .ok else .badLength
      else .unsupportedFunc := by
  have hfour : frame.length - 4 ≠ 4 ↔ ¬ frame.length = 8 := by omega
  simp only [modbusParseRequest, if_neg (Nat.not_lt.2 h5), Bool.not_eq_true', hfour]
  split_ifs <;> rfl

/-- A frame of eight bytes with a valid checksum is a response with four bytes of payload. -/
theorem exists_responseBytes {frame : List UInt8} (hlen : frame.length = 8)
    (hvalid : modbusFrameHasValidCrc frame = true) :
    ∃ payload : Vector UInt8 4,
      frame = responseBytes (frame.getD 0 0) (frame.getD 1 0) payload.toList := by
  obtain ⟨body, -, hframe⟩ := (modbusFrameHasValidCrc_iff frame).1 hvalid
  have hbody : body.length = 6 := by
    have := congrArg List.length hframe
    rw [hlen, List.length_append] at this
    exact (Nat.add_right_cancel (m := 2) this).symm
  match body, hbody with
  | [a, f, d0, d1, d2, d3], _ => exact ⟨#v[d0, d1, d2, d3], by rw [hframe]; rfl⟩

/-- What the parser returns for a response with four bytes of payload. -/
theorem modbusParseRequest_responseBytes {ownSlaveAddr a f : UInt8} (d : Vector UInt8 4)
    (ha : a = ownSlaveAddr ∨ a = 0) (hf : f = 0x03 ∨ f = 0x06) (out : ModbusRequest) :
    modbusParseRequest (responseBytes a f d.toList) ownSlaveAddr out = (.ok, ⟨a, f, d.toList⟩) := by
  have hlen : (responseBytes a f d.toList).length = 8 := by
    rw [length_responseBytes, Vector.length_toList]
  have hvalid : modbusFrameHasValidCrc (responseBytes a f d.toList) = true :=
    (modbusFrameHasValidCrc_iff _).2 ⟨[a, f] ++ d.toList, by simp, rfl⟩
  have hok : (modbusParseRequest (responseBytes a f d.toList) ownSlaveAddr out).1 = .ok :=
    (modbusParseRequest_eq_ok_iff _ _ _).2 ⟨hlen, hvalid, ha, hf⟩
  have hout := modbusParseRequest_ok hok
  refine Prod.ext hok (hout.trans ?_)
  -- the payload is what lies between the header and the checksum
  rw [hlen]
  simp [responseBytes]

/-- The parser accepts exactly the frames that the builder makes of an address of this node, one of
the two functions and four data bytes, and returns these. Of the other frames long enough for a
checksum, it names the first check they fail. -/
theorem parse_accepts_built_frames (frame : List UInt8) (ownSlaveAddr : UInt8) (out : ModbusRequest)
    {outCap : Nat} (outBuf : Vector UInt8 outCap) (hcap : 8 ≤ outCap) :
    ((modbusParseRequest frame ownSlaveAddr out).1 = .ok ↔
      ∃ (a f : UInt8) (d : Vector UInt8 4), (a = ownSlaveAddr ∨ a = 0) ∧ (f = 0x03 ∨ f = 0x06) ∧
        builtFrame a f d outBuf = .ok frame) ∧
    (∀ (a f : UInt8) (d : Vector UInt8 4), (a = ownSlaveAddr ∨ a = 0) → (f = 0x03 ∨ f = 0x06) →
      ∃ built, builtFrame a f d outBuf = .ok built ∧
        modbusParseRequest built ownSlaveAddr out = (.ok, ⟨a, f, d.toList⟩)) ∧
    (5 ≤ frame.length → (modbusParseRequest frame ownSlaveAddr out).1 ≠ .ok →
      (modbusParseRequest frame ownSlaveAddr out).1 =
        if modbusFrameHasValidCrc frame = false then .crc
        else if frame.getD 0 0 ≠ ownSlaveAddr ∧ frame.getD 0 0 ≠ 0 then .badAddr
        else if frame.getD 1 0 = 0x03 ∨ frame.getD 1 0 = 0x06 then .badLength
        else .unsupportedFunc) := by
  have hbuilt : ∀ (a f : UInt8) (d : Vector UInt8 4),
      builtFrame a f d outBuf = .ok (responseBytes a f d.toList) :=
    fun a f d => builtFrame_eq a f d (Nat.le_trans (by decide) hcap) hcap outBuf
  refine ⟨⟨fun hok => ?_, ?_⟩, fun a f d ha hf => ?_, fun h5 hne => ?_⟩
  · obtain ⟨hlen, hvalid, ha, hf⟩ := (modbusParseRequest_eq_ok_iff _ _ _).1 hok
    obtain ⟨d, hframe⟩ := exists_responseBytes hlen hvalid
    exact ⟨_, _, d, ha, hf, by rw [hbuilt, ← hframe]⟩
  · rintro ⟨a, f, d, ha, hf, hframe⟩
    rw [hbuilt] at hframe
    cases hframe
    rw [modbusParseRequest_responseBytes d ha hf]
  · exact ⟨_, hbuilt a f d, modbusParseRequest_responseBytes d ha hf out⟩
  · rw [modbusParseRequest_code h5] at hne ⊢
    split_ifs at hne ⊢
    all_goals first | rfl | exact absurd rfl hne

theorem parse_accepts_built_frames_read :
    ∃ (a f : UInt8) (d : Vector UInt8 4), (a = 1 ∨ a = 0) ∧ (f = 0x03 ∨ f = 0x06) ∧
      builtFrame a f d (Vector.replicate 8 0) =
        .ok [0x01, 0x03, 0x00, 0x03, 0x00, 0x01, 0x74, 0x0A] :=
  (parse_accepts_built_frames [0x01, 0x03, 0x00, 0x03, 0x00, 0x01, 0x74, 0x0A] 1 ⟨0, 0, []⟩
    (Vector.replicate 8 0) (Nat.le_refl 8)).1.1 (by decide +kernel)

end Parser

end ClimateNode.Service
