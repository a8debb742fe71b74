import Mathlib.Data.Int.Order.Basic
import Mathlib.Tactic.Linarith

/-!
# C integer arithmetic with its faults

`int32_t` operations of C are defined only while the exact result is representable; an
overflow, a division by zero and an array index past the end are faults. `Checked` is the
result of a computation that may meet one, and the operations below return the exact result
or the fault. Each operation has one specification lemma: inside the representable range it
returns a value whose integer is the exact result (`addI32_spec` and its companions).

The last section bounds a truncating quotient: `tdiv_mem_of_mul_mem` and `mul_tdiv_mem` for a mean
and `roundDiv_le_of_lt`, `le_roundDiv_of_lt` for a quotient rounded half away from zero.
-/

set_option autoImplicit false

namespace ClimateNode.Machine

universe u

/-- What stops a C computation: signed overflow, division by zero, an index past the end. -/
inductive Fault where
  | overflow
  | divByZero
  | outOfBounds
  deriving DecidableEq, Repr

/-- A computation that returns a value or stops at a fault. -/
abbrev Checked (α : Type u) := Except Fault α

section Bind

variable {α β : Type u}

@[simp] theorem checked_ok_bind (a : α) (f : α → Checked β) :
    ((Except.ok a : Checked α) >>= f) = f a := rfl

@[simp] theorem checked_error_bind (e : Fault) (f : α → Checked β) :
    ((Except.error e : Checked α) >>= f) = .error e := rfl

@[simp] theorem checked_pure (a : α) : (pure a : Checked α) = .ok a := rfl

/-- A sequence that returns did not stop in its first part. -/
theorem checked_bind_eq_ok {x : Checked α} {f : α → Checked β} {b : β}
    (h : (x >>= f) = .ok b) : ∃ a, x = .ok a ∧ f a = .ok b := by
  cases x with
  | error e => simp at h
  | ok a => exact ⟨a, rfl, h⟩

end Bind

/-- `x` is the value of an `int32_t`. -/
def InInt32 (x : Int) : Prop := -2147483648 ≤ x ∧ x ≤ 2147483647

instance (x : Int) : Decidable (InInt32 x) := by
  unfold InInt32
  infer_instance

theorem inInt32_toInt (a : Int32) : InInt32 a.toInt := by
  have h₁ := Int32.le_toInt a
  have h₂ := Int32.toInt_lt a
  exact ⟨by omega, by omega⟩

/-- The `int32_t` with the exact value `x`, or the overflow fault. -/
def int32Exact (x : Int) : Checked Int32 :=
  if InInt32 x then .ok (Int32.ofInt x) else .error .overflow

theorem toInt_ofInt_of_inInt32 {x : Int} (h : InInt32 x) : (Int32.ofInt x).toInt = x :=
  Int32.toInt_ofInt_of_le (by have := h.1; omega) (by have := h.2; omega)

theorem int32Exact_spec {x : Int} (h : InInt32 x) :
    ∃ r, int32Exact x = .ok r ∧ r.toInt = x :=
  ⟨Int32.ofInt x, if_pos h, toInt_ofInt_of_inInt32 h⟩

/-- `a + b`. -/
def addI32 (a b : Int32) : Checked Int32 := int32Exact (a.toInt + b.toInt)

/-- `a - b`. -/
def subI32 (a b : Int32) : Checked Int32 := int32Exact (a.toInt - b.toInt)

/-- `a * b`. -/
def mulI32 (a b : Int32) : Checked Int32 := int32Exact (a.toInt * b.toInt)

/-- `-a`. -/
def negI32 (a : Int32) : Checked Int32 := int32Exact (-a.toInt)

/-- `a / b`, truncated toward zero. -/
def divI32 (a b : Int32) : Checked Int32 :=
  if b.toInt = 0 then .error .divByZero else int32Exact (a.toInt.tdiv b.toInt)

theorem addI32_spec {a b : Int32} (h : InInt32 (a.toInt + b.toInt)) :
    ∃ r, addI32 a b = .ok r ∧ r.toInt = a.toInt + b.toInt := int32Exact_spec h

theorem subI32_spec {a b : Int32} (h : InInt32 (a.toInt - b.toInt)) :
    ∃ r, subI32 a b = .ok r ∧ r.toInt = a.toInt - b.toInt := int32Exact_spec h

theorem mulI32_spec {a b : Int32} (h : InInt32 (a.toInt * b.toInt)) :
    ∃ r, mulI32 a b = .ok r ∧ r.toInt = a.toInt * b.toInt := int32Exact_spec h

theorem negI32_spec {a : Int32} (h : InInt32 (-a.toInt)) :
    ∃ r, negI32 a = .ok r ∧ r.toInt = -a.toInt := int32Exact_spec h

/-- Division by a positive number never faults: the quotient is no larger than the dividend. -/
theorem divI32_spec {a b : Int32} (hb : 0 < b.toInt) :
    ∃ r, divI32 a b = .ok r ∧ r.toInt = a.toInt.tdiv b.toInt := by
  have hq : InInt32 (a.toInt.tdiv b.toInt) := by
    have ha := inInt32_toInt a
    have hn := Int.natAbs_tdiv_le_natAbs a.toInt b.toInt
    obtain ⟨h₁, h₂⟩ := ha
    -- the quotient has the sign of the dividend
    rcases Int.le_total 0 a.toInt with h0 | h0
    · have := Int.tdiv_nonneg h0 (Int.le_of_lt hb)
      exact ⟨by omega, by omega⟩
    · have hneg := Int.tdiv_le_tdiv hb h0
      rw [Int.zero_tdiv] at hneg
      exact ⟨by omega, by omega⟩
  have hne : ¬ b.toInt = 0 := by omega
  obtain ⟨r, hr, hv⟩ := int32Exact_spec hq
  exact ⟨r, by rw [divI32, if_neg hne, hr], hv⟩

/-- The cast `(int32_t)x` of a `uint32_t` below `2^31` keeps the value. -/
theorem toInt_toInt32_of_lt {x : UInt32} (h : x.toNat < 2147483648) :
    x.toInt32.toInt = x.toNat := by
  show x.toBitVec.toInt = x.toNat
  rw [BitVec.toInt_eq_toNat_of_lt]
  · rfl
  · show 2 * x.toNat < 4294967296
    omega

/-- The two bytes of a word, put together again. -/
theorem joinBytes_split (x : UInt16) :
    ((x >>> 8).toUInt8.toUInt16 <<< 8) ||| (x &&& 0xFF).toUInt8.toUInt16 = x := by
  have hx := x.toNat_lt
  have hhi : (x >>> 8).toNat = x.toNat / 256 := by
    rw [UInt16.toNat_shiftRight]
    exact Nat.shiftRight_eq_div_pow _ 8
  have hlo : (x &&& 0xFF).toNat = x.toNat % 256 := by
    rw [UInt16.toNat_and]
    exact Nat.and_two_pow_sub_one_eq_mod _ 8
  have hor := Nat.two_pow_add_eq_or_of_lt (i := 8) (b := x.toNat % 256) (by omega) (x.toNat / 256)
  -- the two bytes do not overlap, so their disjunction is their sum
  apply UInt16.toNat_inj.1
  rw [UInt16.toNat_or, UInt16.toNat_shiftLeft, UInt8.toNat_toUInt16, UInt8.toNat_toUInt16,
    UInt16.toNat_toUInt8, UInt16.toNat_toUInt8, hhi, hlo]
  show (x.toNat / 256 % 256) <<< 8 % 65536 ||| x.toNat % 256 % 256 = x.toNat
  rw [Nat.shiftLeft_eq, Nat.mod_eq_of_lt (by omega), Nat.mod_mod, Nat.mod_eq_of_lt (by omega),
    Nat.mul_comm, ← hor]
  omega

/-- An 8-bit counter below its upper limit counts exactly. -/
theorem toNat_succ_of_lt {x : UInt8} (h : x.toNat < 255) : (x + 1).toNat = x.toNat + 1 := by
  rw [UInt8.toNat_add]
  exact Nat.mod_eq_of_lt (Nat.succ_lt_succ h)

/-- A clamp from above is a minimum. -/
theorem toInt_clampAbove (a b : Int32) :
    (if a > b then b else a).toInt = min a.toInt b.toInt := by
  by_cases h : a > b
  · have := Int32.lt_iff_toInt_lt.1 h
    rw [if_pos h]
    omega
  · have := mt Int32.lt_iff_toInt_lt.2 h
    rw [if_neg h]
    omega

/-- A clamp from below is a maximum. -/
theorem toInt_clampBelow (a b : Int32) :
    (if a < b then b else a).toInt = max a.toInt b.toInt := by
  by_cases h : a < b
  · have := Int32.lt_iff_toInt_lt.1 h
    rw [if_pos h]
    omega
  · have := mt Int32.lt_iff_toInt_lt.2 h
    rw [if_neg h]
    omega

/-! ## Arrays -/

section Arrays

variable {α : Type u} {n : Nat}

/-- `v[i]`. -/
def readAt (v : Vector α n) (i : Nat) : Checked α :=
  match v[i]? with
  | some x => .ok x
  | none => .error .outOfBounds

/-- `v[i] = x`. -/
def writeAt (v : Vector α n) (i : Nat) (x : α) : Checked (Vector α n) :=
  if h : i < n then .ok (v.set i x h) else .error .outOfBounds

theorem readAt_spec (v : Vector α n) {i : Nat} (h : i < n) : readAt v i = .ok v[i] := by
  simp [readAt, h]

theorem writeAt_spec (v : Vector α n) {i : Nat} (h : i < n) (x : α) :
    writeAt v i x = .ok (v.set i x h) := dif_pos h

end Arrays

/-! ## Bounds of quotients -/

/-- A truncated mean stays between the bounds of its terms. -/
theorem tdiv_mem_of_mul_mem {s n lo hi : Int} (hn : 0 < n) (hlo : lo * n ≤ s)
    (hhi : s ≤ hi * n) : lo ≤ s.tdiv n ∧ s.tdiv n ≤ hi := by
  have hne : n ≠ 0 := by omega
  constructor
  · calc lo = (lo * n).tdiv n := (Int.mul_tdiv_cancel lo hne).symm
      _ ≤ s.tdiv n := Int.tdiv_le_tdiv hn hlo
  · calc s.tdiv n ≤ (hi * n).tdiv n := Int.tdiv_le_tdiv hn hhi
      _ = hi := Int.mul_tdiv_cancel hi hne

/-- A truncated quotient is less than one away from the exact one. -/
theorem mul_tdiv_mem (s : Int) {d : Int} (hd : 0 < d) :
    d * s.tdiv d - d < s ∧ s < d * s.tdiv d + d := by
  have hsum := Int.mul_tdiv_add_tmod s d
  have hlow := Int.lt_tmod_of_pos s hd
  have hhigh := Int.tmod_lt_of_pos s hd
  constructor <;> linarith

/-- The quotient `s / d` rounded half away from zero. -/
def roundDiv (s d : Int) : Int :=
  if 0 ≤ s then (s + d.tdiv 2).tdiv d else -((-s + d.tdiv 2).tdiv d)

/-- A rounded quotient is within half a divisor of the exact one. -/
theorem roundDiv_bounds {s d : Int} (hd : 0 < d) :
    2 * s - d ≤ 2 * (d * roundDiv s d) ∧ 2 * (d * roundDiv s d) ≤ 2 * s + d := by
  have hhalf : d.tdiv 2 = d / 2 := Int.tdiv_eq_ediv_of_nonneg (by omega)
  have hbound : ∀ t : Int, 0 ≤ t →
      2 * t - d ≤ 2 * (d * ((t + d.tdiv 2).tdiv d)) ∧
        2 * (d * ((t + d.tdiv 2).tdiv d)) ≤ 2 * t + d := by
    intro t ht
    rw [hhalf, Int.tdiv_eq_ediv_of_nonneg (by omega)]
    have hmod := Int.emod_add_mul_ediv (t + d / 2) d
    have hlt := Int.emod_lt_of_pos (t + d / 2) hd
    have hge := Int.emod_nonneg (t + d / 2) (by omega : d ≠ 0)
    constructor <;> omega
  -- the negative case is the positive one of `-s`
  unfold roundDiv
  split
  · exact hbound s ‹_›
  · obtain ⟨h₁, h₂⟩ := hbound (-s) (by omega)
    rw [Int.mul_neg]
    constructor <;> omega

/-- A rounded quotient is at most `m` when `2 * s + d` is below `2 * m + 2` divisors. -/
theorem roundDiv_le_of_lt {s d m : Int} (hd : 0 < d) (h : 2 * s + d < 2 * (d * (m + 1))) :
    roundDiv s d ≤ m := by
  by_contra hgt
  have hm : d * (m + 1) ≤ d * roundDiv s d :=
    Int.mul_le_mul_of_nonneg_left (by omega) (by omega)
  have := (roundDiv_bounds (s := s) hd).2
  omega

/-- A rounded quotient is at least `m` when `2 * s - d` is above `2 * m - 2` divisors. -/
theorem le_roundDiv_of_lt {s d m : Int} (hd : 0 < d) (h : 2 * (d * (m - 1)) < 2 * s - d) :
    m ≤ roundDiv s d := by
  by_contra hgt
  have hm : d * roundDiv s d ≤ d * (m - 1) :=
    Int.mul_le_mul_of_nonneg_left (by omega) (by omega)
  have := (roundDiv_bounds (s := s) hd).1
  omega

end ClimateNode.Machine
