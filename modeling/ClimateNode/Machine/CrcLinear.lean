import ClimateNode.Machine.Crc
import Mathlib.Algebra.Ring.Parity

/-!
# What a reflected CRC detects

The remainder of a message, one bit at a time in line order, is affine in the message: an error
pattern changes it by the pattern's own remainder from zero (`crcBits_xor`). So an error goes
unseen exactly when its remainder is zero, and the two families below have none:

- a burst within `w` consecutive bits, because a shift loses no information when the polynomial
  has its top bit set (`crcBits_burst_ne_zero`);
- an odd number of bits, because a shift keeps the parity of the remainder when the polynomial
  has an odd number of ones (`crcBits_odd_ne_zero`).
-/

set_option autoImplicit false

namespace ClimateNode.Machine

variable {w : Nat}

/-! ## One shift -/

section Shift

variable {poly : BitVec w}

/-- A shift adds the polynomial exactly when the bit that falls out is set. -/
theorem crcShift_eq (hw : 0 < w) (poly crc : BitVec w) :
    crcShift poly crc = (crc >>> 1) ^^^ (if crc.getLsbD 0 then poly else 0#w) := by
  have hone : crc &&& 1 ≠ 0 ↔ crc.getLsbD 0 = true := by
    show crc &&& 1#w ≠ 0#w ↔ _
    rw [BitVec.and_one_eq_setWidth_ofBool_getLsbD]
    cases crc.getLsbD 0 with
    | false => simp
    | true =>
        refine iff_of_true (fun h => ?_) rfl
        have := congrArg (BitVec.getLsbD · 0) h
        simp [hw] at this
  unfold crcShift
  by_cases h : crc.getLsbD 0 = true
  · rw [if_pos (hone.2 h), if_pos h]
  · rw [if_neg (mt hone.1 h), if_neg h, BitVec.xor_zero]

theorem crcShift_xor (hw : 0 < w) (a b : BitVec w) :
    crcShift poly (a ^^^ b) = crcShift poly a ^^^ crcShift poly b := by
  simp only [crcShift_eq hw, BitVec.ushiftRight_xor_distrib, BitVec.getLsbD_xor]
  cases a.getLsbD 0 <;> cases b.getLsbD 0 <;> simp [BitVec.xor_assoc, BitVec.xor_comm poly]

theorem crcShift_zero (hw : 0 < w) : crcShift poly 0#w = 0#w := by
  simp [crcShift_eq hw]

/-- Nothing is lost: the top bit of the result tells whether the polynomial was added. -/
theorem crcShift_eq_zero_iff (hw : 0 < w) (hpoly : poly.getLsbD (w - 1) = true) {a : BitVec w} :
    crcShift poly a = 0#w ↔ a = 0#w := by
  refine ⟨fun h => ?_, fun h => by rw [h, crcShift_zero hw]⟩
  rw [crcShift_eq hw] at h
  have hlow : a.getLsbD 0 = false := by
    cases hset : a.getLsbD 0 with
    | false => rfl
    | true =>
        have := congrArg (BitVec.getLsbD · (w - 1)) h
        simp [hset, hpoly, Nat.add_sub_cancel' hw] at this
  -- without the polynomial the shifted remainder is zero, so every higher bit is
  rw [hlow] at h
  apply BitVec.eq_of_getLsbD_eq
  intro i hi
  cases i with
  | zero => simpa using hlow
  | succ i =>
      have := congrArg (BitVec.getLsbD · i) h
      simpa [Nat.add_comm 1 i] using this

theorem iterate_crcShift_eq_zero_iff (hw : 0 < w) (hpoly : poly.getLsbD (w - 1) = true) (n : Nat)
    {a : BitVec w} : (crcShift poly)^[n] a = 0#w ↔ a = 0#w := by
  induction n generalizing a with
  | zero => rfl
  | succ n ih => rw [Function.iterate_succ_apply, ih, crcShift_eq_zero_iff hw hpoly]

end Shift

/-! ## Line order -/

/-- The low `n` bits of `y`, least significant first: the order they have on the line. -/
def lowBits (n : Nat) (y : BitVec w) : List Bool := (List.range n).map y.getLsbD

/-- A bit as a remainder. -/
def bitWord (w : Nat) (bit : Bool) : BitVec w := if bit then 1#w else 0#w

/-- The remainder after `bits` in line order, from `crc`. -/
def crcBits (poly crc : BitVec w) (bits : List Bool) : BitVec w :=
  bits.foldl (fun crc bit => crcShift poly (crc ^^^ bitWord w bit)) crc

/-- The bits of a message in line order: bytes in order, least significant bit first. -/
def lineBits (bytes : List UInt8) : List Bool := bytes.flatMap fun byte => lowBits 8 byte.toBitVec

@[simp] theorem length_lowBits (n : Nat) (y : BitVec w) : (lowBits n y).length = n := by
  simp [lowBits]

@[simp] theorem length_lineBits (bytes : List UInt8) :
    (lineBits bytes).length = 8 * bytes.length := by
  induction bytes with
  | nil => rfl
  | cons byte bytes ih =>
      show (lowBits 8 byte.toBitVec ++ lineBits bytes).length = _
      rw [List.length_append, ih, length_lowBits, List.length_cons]
      omega

/-- A message has a set bit when one of its bytes is not zero. -/
theorem true_mem_lineBits {bytes : List UInt8} :
    true ∈ lineBits bytes ↔ ∃ byte ∈ bytes, byte ≠ 0 := by
  simp only [lineBits, List.mem_flatMap, lowBits, List.mem_map, List.mem_range]
  refine exists_congr fun byte => and_congr_right fun _ => ⟨?_, fun hbyte => ?_⟩
  · rintro ⟨i, -, hset⟩ rfl
    simp at hset
  · by_contra hclear
    refine hbyte (UInt8.toBitVec_inj.1 (BitVec.eq_of_getLsbD_eq fun i hi => ?_))
    cases hset : byte.toBitVec.getLsbD i with
    | false => simp
    | true => exact absurd ⟨i, hi, hset⟩ hclear

theorem lowBits_succ (n : Nat) (y : BitVec w) :
    lowBits (n + 1) y = y.getLsbD 0 :: lowBits n (y >>> 1) := by
  simp only [lowBits, List.range_succ_eq_map, List.map_cons, List.map_map]
  refine congrArg _ (List.map_congr_left fun i _ => ?_)
  simp [Nat.add_comm 1 i]

theorem lowBits_setWidth {v : Nat} {n : Nat} (hn : n ≤ w) (y : BitVec v) :
    lowBits n (y.setWidth w) = lowBits n y := by
  refine List.map_congr_left fun i hi => ?_
  have := List.mem_range.1 hi
  simp [show i < w by omega]

@[simp] theorem crcBits_nil (poly crc : BitVec w) : crcBits poly crc [] = crc := rfl

theorem crcBits_append (poly crc : BitVec w) (xs ys : List Bool) :
    crcBits poly crc (xs ++ ys) = crcBits poly (crcBits poly crc xs) ys := List.foldl_append

/-- A remainder is its lowest bit and the bits above it. -/
theorem eq_bitWord_xor (y : BitVec w) :
    y = bitWord w (y.getLsbD 0) ^^^ ((y >>> 1) <<< 1) := by
  apply BitVec.eq_of_getLsbD_eq
  intro i hi
  cases i with
  | zero => cases y.getLsbD 0 <;> simp [bitWord, hi]
  | succ i => cases y.getLsbD 0 <;> simp [bitWord, hi, Nat.add_comm 1 i]

/-- Bits above the lowest only move down. -/
theorem crcShift_even (hw : 0 < w) (poly y : BitVec w) :
    crcShift poly ((y >>> 1) <<< 1) = y >>> 1 := by
  rw [crcShift_eq hw]
  apply BitVec.eq_of_getLsbD_eq
  intro i hi
  simp [Nat.add_comm 1 i]
  intro hy
  have := BitVec.lt_of_getLsbD hy
  omega

/-- Reading `n` bits one by one is adding them at once and shifting `n` times. -/
theorem crcBits_lowBits (hw : 0 < w) (poly : BitVec w) : ∀ (n : Nat) (crc y : BitVec w),
    (∀ i, n ≤ i → y.getLsbD i = false) →
      crcBits poly crc (lowBits n y) = (crcShift poly)^[n] (crc ^^^ y) := by
  intro n
  induction n with
  | zero =>
      intro crc y hy
      have h0 : y = 0#w := BitVec.eq_of_getLsbD_eq fun i _ => by simp [hy i (Nat.zero_le i)]
      rw [h0, BitVec.xor_zero]
      rfl
  | succ n ih =>
      intro crc y hy
      have hhigh : ∀ i, n ≤ i → (y >>> 1).getLsbD i = false := by
        intro i hi
        simpa using hy (1 + i) (by omega)
      calc crcBits poly crc (lowBits (n + 1) y)
          = crcBits poly (crcShift poly (crc ^^^ bitWord w (y.getLsbD 0)))
              (lowBits n (y >>> 1)) := by rw [lowBits_succ]; rfl
        _ = (crcShift poly)^[n] (crcShift poly (crc ^^^ bitWord w (y.getLsbD 0)) ^^^ y >>> 1) :=
            ih _ _ hhigh
        _ = (crcShift poly)^[n] (crcShift poly (crc ^^^ y)) := by
            rw [← crcShift_even hw poly y, ← crcShift_xor hw, BitVec.xor_assoc,
              ← eq_bitWord_xor]
        _ = (crcShift poly)^[n + 1] (crc ^^^ y) := rfl

/-- The byte loop of the code is the bit loop over the bytes in line order. -/
theorem crcBytes_eq_crcBits (hw : 8 ≤ w) (poly crc : BitVec w) (bytes : List UInt8) :
    crcBytes poly crc bytes = crcBits poly crc (lineBits bytes) := by
  induction bytes generalizing crc with
  | nil => rfl
  | cons byte bytes ih =>
      have hbyte : crcByte poly crc byte = crcBits poly crc (lowBits 8 byte.toBitVec) := by
        rw [← lowBits_setWidth hw, crcBits_lowBits (by omega)]
        · rfl
        · intro i hi
          simp [BitVec.getLsbD_of_ge byte.toBitVec i hi]
      calc crcBytes poly crc (byte :: bytes)
          = crcBytes poly (crcByte poly crc byte) bytes := rfl
        _ = crcBits poly crc (lineBits (byte :: bytes)) := by
            rw [ih, hbyte, ← crcBits_append]
            rfl

/-- The remainder is affine: patterns that are added to the message and to the initial remainder
add their own remainder. -/
theorem crcBits_xor (hw : 0 < w) (poly : BitVec w) :
    ∀ (xs ys : List Bool) (a b : BitVec w), xs.length = ys.length →
      crcBits poly (a ^^^ b) (List.zipWith xor xs ys) =
        crcBits poly a xs ^^^ crcBits poly b ys := by
  intro xs
  induction xs with
  | nil =>
      intro ys a b hlen
      rw [List.length_eq_zero_iff.1 hlen.symm]
      rfl
  | cons x xs ih =>
      intro ys a b hlen
      cases ys with
      | nil => simp at hlen
      | cons y ys =>
          have hbit : bitWord w (x ^^ y) = bitWord w x ^^^ bitWord w y := by
            cases x <;> cases y <;> simp [bitWord]
          have hstep : crcShift poly ((a ^^^ b) ^^^ bitWord w (x ^^ y)) =
              crcShift poly (a ^^^ bitWord w x) ^^^ crcShift poly (b ^^^ bitWord w y) := by
            rw [← crcShift_xor hw, hbit]
            congr 1
            ac_rfl
          have := ih ys (crcShift poly (a ^^^ bitWord w x)) (crcShift poly (b ^^^ bitWord w y))
            (by simpa using hlen)
          rw [← hstep] at this
          exact this

theorem lineBits_zipWith : ∀ (xs ys : List UInt8), xs.length = ys.length →
    lineBits (List.zipWith (· ^^^ ·) xs ys) = List.zipWith xor (lineBits xs) (lineBits ys) := by
  intro xs
  induction xs with
  | nil => exact fun _ _ => rfl
  | cons x xs ih =>
      intro ys hlen
      cases ys with
      | nil => simp at hlen
      | cons y ys =>
          have hbyte : lowBits 8 (x ^^^ y).toBitVec =
              List.zipWith xor (lowBits 8 x.toBitVec) (lowBits 8 y.toBitVec) := by
            simp [lowBits, List.zipWith_map, List.zipWith_self]
          show lowBits 8 (x ^^^ y).toBitVec ++ lineBits (List.zipWith (· ^^^ ·) xs ys) = _
          rw [hbyte, ih ys (by simpa using hlen)]
          exact (List.zipWith_append (by simp)).symm

/-! ## Bursts -/

section Burst

variable {poly : BitVec w}

/-- Bits that are all clear only shift the remainder. -/
theorem crcBits_eq_iterate {bits : List Bool} (h : true ∉ bits) (crc : BitVec w) :
    crcBits poly crc bits = (crcShift poly)^[bits.length] crc := by
  induction bits generalizing crc with
  | nil => rfl
  | cons bit bits ih =>
      rw [List.mem_cons, not_or] at h
      have hbit : bit = false := by simpa using Ne.symm h.1
      calc crcBits poly crc (bit :: bits)
          = crcBits poly (crcShift poly (crc ^^^ bitWord w bit)) bits := rfl
        _ = crcBits poly (crcShift poly crc) bits := by rw [hbit]; simp [bitWord]
        _ = _ := ih h.2 _

/-- At most `w` bits leave a remainder of zero only when all of them are clear. -/
theorem crcBits_window_ne_zero (hw : 0 < w) (hpoly : poly.getLsbD (w - 1) = true)
    {bits : List Bool} (hlen : bits.length ≤ w) (hset : true ∈ bits) :
    crcBits poly 0#w bits ≠ 0#w := by
  have hbit : ∀ i, ((BitVec.ofBoolListLE bits).setWidth w).getLsbD i = bits.getD i false := by
    intro i
    rw [BitVec.getLsbD_setWidth, BitVec.getLsbD_ofBoolListLE]
    by_cases hi : i < w
    · simp [hi]
    · simp [hi, List.getElem?_eq_none (show bits.length ≤ i by omega)]
  have hbits : lowBits bits.length ((BitVec.ofBoolListLE bits).setWidth w) = bits := by
    apply List.ext_getElem (by simp)
    intro i h₁ h₂
    simp [lowBits, hbit, h₂]
  rw [← hbits, crcBits_lowBits hw, Ne, iterate_crcShift_eq_zero_iff hw hpoly, BitVec.zero_xor]
  · intro h0
    obtain ⟨i, hi, hget⟩ := List.getElem_of_mem hset
    have := hbit i
    rw [h0] at this
    simp [hi, hget] at this
  · intro i hi
    rw [hbit]
    simp [hi]

/-- A burst: set bits within `w` consecutive positions, and at least one. -/
theorem crcBits_burst_ne_zero (hw : 0 < w) (hpoly : poly.getLsbD (w - 1) = true)
    {bits : List Bool} {k : Nat} (hburst : ∀ i, bits[i]? = some true → k ≤ i ∧ i < k + w)
    (hset : true ∈ bits) : crcBits poly 0#w bits ≠ 0#w := by
  have hsplit : bits = bits.take k ++ ((bits.drop k).take w ++ (bits.drop k).drop w) := by
    rw [List.take_append_drop, List.take_append_drop]
  have hbefore : true ∉ bits.take k := by
    intro hmem
    obtain ⟨i, hi, hget⟩ := List.getElem_of_mem hmem
    have hlt := List.length_take ▸ hi
    have := hburst i (by rw [List.getElem?_eq_some_iff]; exact ⟨by omega, by simpa using hget⟩)
    omega
  have hafter : true ∉ (bits.drop k).drop w := by
    intro hmem
    obtain ⟨i, hi, hget⟩ := List.getElem_of_mem hmem
    simp only [List.length_drop] at hi
    have := hburst (k + (w + i)) (by
      rw [List.getElem?_eq_some_iff]; exact ⟨by omega, by simpa [Nat.add_assoc] using hget⟩)
    omega
  have hwindow : true ∈ (bits.drop k).take w := by
    rw [hsplit, List.mem_append, List.mem_append] at hset
    rcases hset with h | h | h
    · exact absurd h hbefore
    · exact h
    · exact absurd h hafter
  have hshifted : (crcShift poly)^[(bits.take k).length] 0#w = 0#w :=
    (iterate_crcShift_eq_zero_iff hw hpoly _).2 rfl
  rw [hsplit, crcBits_append, crcBits_append, crcBits_eq_iterate hbefore, hshifted,
    crcBits_eq_iterate hafter, Ne, iterate_crcShift_eq_zero_iff hw hpoly]
  exact crcBits_window_ne_zero hw hpoly (List.length_take_le w _) hwindow

end Burst

/-! ## Odd weight -/

/-- Whether the number of set bits is odd. -/
def oddWeight (bits : List Bool) : Bool := bits.foldr xor false

@[simp] theorem oddWeight_cons (bit : Bool) (bits : List Bool) :
    oddWeight (bit :: bits) = (bit ^^ oddWeight bits) := rfl

theorem oddWeight_iff (bits : List Bool) : oddWeight bits = true ↔ Odd (bits.count true) := by
  induction bits with
  | nil => simp [oddWeight]
  | cons bit bits ih =>
      rw [oddWeight_cons]
      cases bit with
      | false => simpa using ih
      | true => simp [Nat.odd_add_one, ← ih]

/-- Whether a remainder has an odd number of ones. -/
def oddWord (y : BitVec w) : Bool := oddWeight (lowBits w y)

theorem oddWord_xor (a b : BitVec w) : oddWord (a ^^^ b) = (oddWord a ^^ oddWord b) := by
  have hlow : ∀ (n : Nat) (a b : BitVec w), oddWeight (lowBits n (a ^^^ b)) =
      (oddWeight (lowBits n a) ^^ oddWeight (lowBits n b)) := by
    intro n
    induction n with
    | zero => exact fun _ _ => rfl
    | succ n ih =>
        intro a b
        simp only [lowBits_succ, oddWeight_cons]
        rw [BitVec.ushiftRight_xor_distrib, ih, BitVec.getLsbD_xor]
        simp only [Bool.xor_assoc, Bool.xor_left_comm]
  exact hlow w a b

/-- Moving down drops the lowest bit. -/
theorem oddWord_shift (hw : 0 < w) (y : BitVec w) :
    oddWord (y >>> 1) = (y.getLsbD 0 ^^ oddWord y) := by
  cases w with
  | zero => exact absurd hw (Nat.lt_irrefl 0)
  | succ n =>
      have hlast : lowBits (n + 1) (y >>> 1) = lowBits n (y >>> 1) ++ [false] := by
        simp [lowBits, List.range_succ, Nat.add_comm 1 n]
      rw [oddWord, oddWord, hlast, lowBits_succ]
      simp [oddWeight]

theorem oddWord_bitWord (hw : 0 < w) (bit : Bool) : oddWord (bitWord w bit) = bit := by
  cases w with
  | zero => exact absurd hw (Nat.lt_irrefl 0)
  | succ n =>
      have hrest : bitWord (n + 1) bit >>> 1 = 0#(n + 1) := by
        apply BitVec.eq_of_getLsbD_eq
        intro i hi
        cases bit <;> simp [bitWord]
      have hzero : ∀ m, oddWeight (lowBits m (0#(n + 1))) = false := by
        intro m
        induction m with
        | zero => rfl
        | succ m ih => simpa [lowBits_succ, oddWeight] using ih
      rw [oddWord, lowBits_succ, hrest, oddWeight_cons, hzero]
      cases bit <;> simp [bitWord]

section Odd

variable {poly : BitVec w}

/-- A shift keeps the parity when the polynomial has an odd number of ones. -/
theorem oddWord_crcShift (hw : 0 < w) (hpoly : oddWord poly = true) (crc : BitVec w) :
    oddWord (crcShift poly crc) = oddWord crc := by
  rw [crcShift_eq hw, oddWord_xor, oddWord_shift hw]
  cases crc.getLsbD 0 with
  | false =>
      have hzero : oddWord (0#w) = false := oddWord_bitWord hw false
      simp [hzero]
  | true => simp [hpoly]

theorem oddWord_crcBits (hw : 0 < w) (hpoly : oddWord poly = true) (bits : List Bool)
    (crc : BitVec w) : oddWord (crcBits poly crc bits) = (oddWord crc ^^ oddWeight bits) := by
  induction bits generalizing crc with
  | nil => simp [oddWeight]
  | cons bit bits ih =>
      calc oddWord (crcBits poly crc (bit :: bits))
          = oddWord (crcBits poly (crcShift poly (crc ^^^ bitWord w bit)) bits) := rfl
        _ = (oddWord crc ^^ bit ^^ oddWeight bits) := by
            rw [ih, oddWord_crcShift hw hpoly, oddWord_xor, oddWord_bitWord hw]
        _ = (oddWord crc ^^ oddWeight (bit :: bits)) := by
            rw [oddWeight_cons, Bool.xor_assoc]

theorem crcBits_odd_ne_zero (hw : 0 < w) (hpoly : oddWord poly = true) {bits : List Bool}
    (hodd : Odd (bits.count true)) : crcBits poly 0#w bits ≠ 0#w := by
  intro h
  have hzero : oddWord (0#w) = false := oddWord_bitWord hw false
  have := oddWord_crcBits hw hpoly bits 0#w
  rw [h, hzero, (oddWeight_iff bits).2 hodd] at this
  cases this

end Odd

end ClimateNode.Machine
