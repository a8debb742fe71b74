import Mathlib.Tactic.Linarith

/-!
# Wrapped millisecond time

A 32-bit tick counter wraps, and code compares two readings by the sign of their wrapped difference.
`msAfter a i` is the reading `i` milliseconds after the reading `a`. For readings less than `2^31`
milliseconds after a common one the comparison decides the order of the unbounded times
(`due_msAfter_iff`).
-/

set_option autoImplicit false

namespace ClimateNode.Machine

/-- The reading `i` milliseconds after the reading `a`. -/
def msAfter (a : UInt32) (i : Nat) : UInt32 := a + UInt32.ofNat i

theorem msAfter_add (a : UInt32) (i j : Nat) : msAfter a (i + j) = msAfter (msAfter a i) j := by
  rw [msAfter, msAfter, msAfter, UInt32.ofNat_add, UInt32.add_assoc]

@[simp] theorem msAfter_zero (a : UInt32) : msAfter a 0 = a := UInt32.add_zero a

/-- Every reading is some time after any other. -/
theorem msAfter_sub (a b : UInt32) : msAfter a (b - a).toNat = b := by
  rw [msAfter, UInt32.ofNat_toNat, UInt32.add_comm, UInt32.sub_add_cancel]

/-- A reading taken one period later. -/
theorem msAfter_add_toUInt32 (a : UInt32) (i : Nat) (p : UInt32) :
    msAfter a i + p = msAfter a (i + p.toNat) := by
  rw [msAfter_add]
  show msAfter a i + p = msAfter a i + UInt32.ofNat p.toNat
  rw [UInt32.ofNat_toNat]

theorem toNat_msAfter (a : UInt32) (i : Nat) :
    (msAfter a i).toNat = (a.toNat + i) % 4294967296 := by
  rw [msAfter, UInt32.toNat_add, UInt32.toNat_ofNat']
  exact Nat.add_mod_mod _ _ _

/-- Two's complement: the upper half of the range is negative. -/
theorem toInt_toInt32 (x : UInt32) : x.toInt32.toInt =
    if 2 * x.toNat < 4294967296 then (x.toNat : Int) else x.toNat - 4294967296 :=
  BitVec.toInt_eq_toNat_cond x.toBitVec

theorem toInt32_neg_iff (x : UInt32) : x.toInt32 < 0 ↔ 2147483648 ≤ x.toNat := by
  have hx := x.toNat_lt
  rw [Int32.lt_iff_toInt_lt, toInt_toInt32]
  show _ < (0 : Int) ↔ _
  split <;> omega

/-- A signed comparison with a span below `2^31`: the elapsed time is at least the span, and not so
long that it reads as negative. -/
theorem toInt32_ge_iff {x y : UInt32} (hy : y.toNat < 2147483648) :
    x.toInt32 ≥ y.toInt32 ↔ y.toNat ≤ x.toNat ∧ x.toNat < 2147483648 := by
  have hx := x.toNat_lt
  rw [ge_iff_le, Int32.le_iff_toInt_le, toInt_toInt32, toInt_toInt32, if_pos (by omega)]
  split <;> omega

/-- For two readings less than `2^31` ms after a common one, the wrapped difference is negative
exactly when the second time lies after the first. -/
theorem msAfter_sub_neg_iff (a : UInt32) {i j : Nat} (hi : i < 2147483648) (hj : j < 2147483648) :
    (msAfter a i - msAfter a j).toInt32 < 0 ↔ i < j := by
  have ha := a.toNat_lt
  rw [toInt32_neg_iff, UInt32.toNat_sub, toNat_msAfter, toNat_msAfter]
  omega

/-- The wrapped difference of two readings is the time between them. -/
theorem toNat_msAfter_sub (a : UInt32) {i j : Nat} (hle : i ≤ j) (hj : j < 4294967296) :
    (msAfter a j - msAfter a i).toNat = j - i := by
  have ha := a.toNat_lt
  rw [UInt32.toNat_sub, toNat_msAfter, toNat_msAfter]
  omega

/-- A reading less than a wrap later is the same one only when no time has passed. -/
theorem msAfter_eq_self_iff (a : UInt32) {i : Nat} (hi : i < 4294967296) :
    msAfter a i = a ↔ i = 0 := by
  constructor
  · intro heq
    have hdiff := toNat_msAfter_sub a (Nat.zero_le i) hi
    rw [heq, msAfter_zero, UInt32.sub_self] at hdiff
    exact hdiff.symm
  · rintro rfl
    exact msAfter_zero a

/-- The comparison of the scheduler: a time is due when the difference is not negative. -/
theorem due_msAfter_iff (a : UInt32) {i j : Nat} (hi : i < 2147483648) (hj : j < 2147483648) :
    (msAfter a i - msAfter a j).toInt32 ≥ 0 ↔ j ≤ i := by
  have hneg := msAfter_sub_neg_iff a hi hj
  rw [ge_iff_le, ← Int32.not_lt, hneg, Nat.not_lt]

/-- A reading of an unbounded clock, counted from an earlier one. -/
theorem msAfter_ofNat {m k : Nat} (h : m ≤ k) :
    msAfter (UInt32.ofNat m) (k - m) = UInt32.ofNat k := by
  rw [msAfter, ← UInt32.ofNat_add, Nat.add_sub_cancel' h]

/-- Two readings of an unbounded clock, taken less than `2^31` ms apart, are compared rightly. -/
theorem due_ofNat_iff {i j : Nat} (hij : i < j + 2147483648) (hji : j < i + 2147483648) :
    (UInt32.ofNat i - UInt32.ofNat j).toInt32 ≥ 0 ↔ j ≤ i := by
  -- both are taken relative to the earlier one
  rcases Nat.le_total i j with hle | hle
  · have hdue := due_msAfter_iff (UInt32.ofNat i) (by omega : i - i < _) (by omega : j - i < _)
    rw [msAfter_ofNat (Nat.le_refl i), msAfter_ofNat hle] at hdue
    rw [hdue]
    omega
  · have hdue := due_msAfter_iff (UInt32.ofNat j) (by omega : i - j < _) (by omega : j - j < _)
    rw [msAfter_ofNat (Nat.le_refl j), msAfter_ofNat hle] at hdue
    rw [hdue]
    omega

end ClimateNode.Machine
