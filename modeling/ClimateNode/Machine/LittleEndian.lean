import ClimateNode.Machine.CrcLinear

/-!
# Little-endian byte strings

The bytes of a number, low byte first, and the number that such bytes carry. Each determines the
other (`leBytes_leNat`, `leNat_leBytes`), and in line order the bits of the bytes are the bits of
the number (`lineBits_leBytes`).
-/

set_option autoImplicit false

namespace ClimateNode.Machine

/-- The number that bytes carry, low byte first. -/
def leNat : List UInt8 → Nat
  | [] => 0
  | byte :: bytes => byte.toNat + 256 * leNat bytes

/-- The low `n` bytes of a number, low byte first. -/
def leBytes : Nat → Nat → List UInt8
  | 0, _ => []
  | n + 1, x => UInt8.ofNat x :: leBytes n (x / 256)

theorem leNat_lt (bytes : List UInt8) : leNat bytes < 256 ^ bytes.length := by
  induction bytes with
  | nil => exact Nat.one_pos
  | cons byte bytes ih =>
      have hbyte := byte.toNat_lt
      rw [leNat, List.length_cons, Nat.pow_succ]
      omega

/-- Bytes are the bytes of the number they carry. -/
theorem leBytes_leNat (bytes : List UInt8) : leBytes bytes.length (leNat bytes) = bytes := by
  induction bytes with
  | nil => rfl
  | cons byte bytes ih =>
      have hbyte := byte.toNat_lt
      have hlow : UInt8.ofNat (byte.toNat + 256 * leNat bytes) = byte := by
        rw [← UInt8.toNat_inj, UInt8.toNat_ofNat']
        show (byte.toNat + 256 * leNat bytes) % 256 = _
        omega
      have hhigh : (byte.toNat + 256 * leNat bytes) / 256 = leNat bytes := by omega
      rw [List.length_cons, leNat, leBytes, hlow, hhigh, ih]

/-- A number that fits is the number its bytes carry. -/
theorem leNat_leBytes {n x : Nat} (hx : x < 256 ^ n) : leNat (leBytes n x) = x := by
  induction n generalizing x with
  | zero => exact (Nat.lt_one_iff.1 hx).symm
  | succ n ih =>
      have hrest : x / 256 < 256 ^ n := by
        rw [Nat.pow_succ] at hx
        omega
      rw [leBytes, leNat, ih hrest, UInt8.toNat_ofNat']
      show x % 256 + 256 * (x / 256) = x
      omega

/-- In line order the bits of the bytes are the bits of the number, from the lowest. -/
theorem lineBits_leBytes (n x : Nat) :
    lineBits (leBytes n x) = (List.range (8 * n)).map x.testBit := by
  induction n generalizing x with
  | zero => rfl
  | succ n ih =>
      have hbyte : lowBits 8 (UInt8.ofNat x).toBitVec = (List.range 8).map x.testBit := by
        refine List.map_congr_left fun i hi => ?_
        have hlt := List.mem_range.1 hi
        rw [BitVec.getLsbD, UInt8.toNat_toBitVec, UInt8.toNat_ofNat', Nat.testBit_mod_two_pow]
        simp [hlt]
      have hrest : ∀ i, (x / 256).testBit i = x.testBit (8 + i) := by
        intro i
        rw [show (256 : Nat) = 2 ^ 8 from rfl, Nat.testBit_div_two_pow, Nat.add_comm]
      show lowBits 8 (UInt8.ofNat x).toBitVec ++ lineBits (leBytes n (x / 256)) = _
      rw [hbyte, ih, show 8 * (n + 1) = 8 + 8 * n by omega, List.range_add, List.map_append,
        List.map_map]
      exact congrArg _ (List.map_congr_left fun i _ => hrest i)

/-- The bytes of a word, in line order, are the bits of the word. -/
theorem lineBits_leBytes_toNat {w : Nat} (n : Nat) (y : BitVec w) :
    lineBits (leBytes n y.toNat) = lowBits (8 * n) y := lineBits_leBytes n y.toNat

end ClimateNode.Machine
