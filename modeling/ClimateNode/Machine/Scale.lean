import Mathlib.Algebra.Order.Floor.Div
import Mathlib.Data.Rat.Floor
import Mathlib.Tactic.FieldSimp

/-!
# Scales

A scale takes `den` to `num` and rounds down in between. The numbers with one value are an interval
(`scaled_eq_iff`), and when `num` is not above `den` no value is skipped (`scaled_firstScaled`). The
last lemma bounds what a sum loses when its terms are rounded down.
-/

set_option autoImplicit false

namespace ClimateNode.Machine

universe u

/-- The value of `w`. -/
def scaled (num den w : Nat) : Nat := num * w / den

/-- The first number whose value is at least `k`. -/
def firstScaled (num den k : Nat) : Nat := (k * den) ⌈/⌉ num

section Scale

variable {num den : Nat}

theorem le_scaled_iff (hnum : 0 < num) (hden : 0 < den) (k w : Nat) :
    k ≤ scaled num den w ↔ firstScaled num den k ≤ w := by
  rw [scaled, firstScaled, Nat.le_div_iff_mul_le hden, ceilDiv_le_iff_le_mul hnum]

theorem scaled_eq_iff (hnum : 0 < num) (hden : 0 < den) (k w : Nat) :
    scaled num den w = k ↔ firstScaled num den k ≤ w ∧ w < firstScaled num den (k + 1) := by
  rw [← le_scaled_iff hnum hden, ← Nat.not_le, ← le_scaled_iff hnum hden]
  omega

theorem scaled_mono {v w : Nat} (h : v ≤ w) : scaled num den v ≤ scaled num den w :=
  Nat.div_le_div_right (Nat.mul_le_mul_left num h)

theorem scaled_self (hden : 0 < den) : scaled num den den = num :=
  Nat.mul_div_cancel num hden

/-- Every value is read where the scale does not stretch. -/
theorem scaled_firstScaled (hnum : 0 < num) (hle : num ≤ den) (k : Nat) :
    scaled num den (firstScaled num den k) = k := by
  have hden : 0 < den := Nat.lt_of_lt_of_le hnum hle
  rw [scaled_eq_iff hnum hden]
  refine ⟨Nat.le_refl _, ?_⟩
  by_contra hnot
  rw [Nat.not_lt, ← le_scaled_iff hnum hden, scaled, Nat.le_div_iff_mul_le hden] at hnot
  cases hfirst : firstScaled num den k with
  | zero =>
      rw [hfirst, Nat.mul_zero, Nat.le_zero, Nat.mul_eq_zero] at hnot
      omega
  | succ w =>
      -- the number before the first one is too small for `k`
      have hbefore : ¬ k ≤ scaled num den w := by
        rw [le_scaled_iff hnum hden, hfirst]
        exact Nat.not_succ_le_self w
      rw [scaled, Nat.le_div_iff_mul_le hden] at hbefore
      rw [hfirst, Nat.mul_succ, Nat.succ_mul] at hnot
      omega

/-- The value is less than one below the exact quotient. -/
theorem scaled_exact (num : Nat) (hden : 0 < den) (w : Nat) :
    (scaled num den w : ℚ) ≤ num * w / den ∧ (num * w / den : ℚ) < scaled num den w + 1 := by
  have hpos : (0 : ℚ) < den := Nat.cast_pos.2 hden
  have hlow : scaled num den w * den ≤ num * w := Nat.div_mul_le_self _ _
  have hhigh : num * w < (scaled num den w + 1) * den := by
    rw [scaled, Nat.succ_mul]
    exact Nat.lt_div_mul_add hden
  rw [le_div_iff₀ hpos, div_lt_iff₀ hpos]
  exact ⟨by exact_mod_cast hlow, by exact_mod_cast hhigh⟩

end Scale

/-- Sums of numbers that are rounded down. -/
theorem sum_floor_mem {α : Type u} {f : α → Int} {g : α → ℚ}
    (h : ∀ x, (f x : ℚ) ≤ g x ∧ g x < f x + 1) (xs : List α) :
    ((xs.map f).sum : ℚ) ≤ (xs.map g).sum ∧ (xs.map g).sum ≤ (xs.map f).sum + xs.length := by
  induction xs with
  | nil => simp
  | cons x xs ih =>
      obtain ⟨hlow, hhigh⟩ := h x
      obtain ⟨ihlow, ihhigh⟩ := ih
      simp only [List.map_cons, List.sum_cons, List.length_cons]
      rw [Int.cast_add, Nat.cast_add, Nat.cast_one]
      constructor <;> linarith

end ClimateNode.Machine
