import ClimateNode.Machine.CheckedInt
import Mathlib.Algebra.Order.Round
import Mathlib.Tactic.FieldSimp
import Mathlib.Tactic.Linarith
import Mathlib.Tactic.Ring

/-!
# Rounded quotients and linear fractional maps

Rounding to the nearest integer with halves away from zero, over any ordered field with a floor: it
is monotone, moves a number by at most a half, and is what `roundDiv` computes of an exact quotient.

The two linear fractional maps `t ↦ a * t / (b + t)` and `x ↦ b * x / (a - x)` undo each other and
are monotone on the side of their pole that matters; the second stretches distances by at most
`a * b / m ^ 2` where its denominator stays above `m`.
-/

set_option autoImplicit false

namespace ClimateNode.Machine

universe u

variable {K : Type u} [Field K]

/-! ## Rounding -/

section Round

variable [LinearOrder K] [IsStrictOrderedRing K] [FloorRing K]

/-- The nearest integer, with halves away from zero. -/
def roundAway (x : K) : Int := if 0 ≤ x then round x else -round (-x)

theorem abs_roundAway_sub_le (x : K) : |(roundAway x : K) - x| ≤ 1 / 2 := by
  unfold roundAway
  split
  · rw [abs_sub_comm]
    exact abs_sub_round x
  · have h := abs_sub_round (-x)
    rw [Int.cast_neg, abs_sub_comm, sub_neg_eq_add]
    rwa [← abs_neg, neg_sub, sub_neg_eq_add, add_comm] at h

theorem round_le_round {x y : K} (h : x ≤ y) : round x ≤ round y := by
  rw [round_eq, round_eq]
  exact Int.floor_le_floor (by linarith)

/-- Rounding keeps the order: on either side of zero it is a floor, and zero lies between. -/
theorem roundAway_mono {x y : K} (hxy : x ≤ y) : roundAway x ≤ roundAway y := by
  have hnonneg : ∀ x : K, 0 ≤ x → 0 ≤ round x := fun x hx => by
    rw [← round_zero (α := K)]
    exact round_le_round hx
  unfold roundAway
  by_cases hx : 0 ≤ x
  · rw [if_pos hx, if_pos (hx.trans hxy)]
    exact round_le_round hxy
  · rw [if_neg hx]
    by_cases hy : 0 ≤ y
    · rw [if_pos hy]
      have := hnonneg (-x) (by linarith)
      have := hnonneg y hy
      omega
    · rw [if_neg hy]
      exact neg_le_neg (round_le_round (neg_le_neg hxy))

/-- Adding half the divisor before an integer division rounds the exact quotient. -/
theorem tdiv_half_eq_round {s d : Int} (hs : 0 ≤ s) (hd : 0 < d) :
    (s + d.tdiv 2).tdiv d = round ((s : K) / d) := by
  have hhalf : d.tdiv 2 = d / 2 := Int.tdiv_eq_ediv_of_nonneg (by omega)
  have hmod := Int.emod_add_mul_ediv (s + d / 2) d
  have hlt := Int.emod_lt_of_pos (s + d / 2) hd
  have hge := Int.emod_nonneg (s + d / 2) (by omega : d ≠ 0)
  rw [hhalf, Int.tdiv_eq_ediv_of_nonneg (by omega)]
  generalize (s + d / 2) / d = q at hmod
  have hlo : 2 * (d * q) ≤ 2 * s + d := by omega
  have hhi : 2 * s + d < 2 * (d * q) + 2 * d := by omega
  have hlo' : 2 * ((d : K) * q) ≤ 2 * s + d := by exact_mod_cast hlo
  have hhi' : 2 * (s : K) + d < 2 * (d * q) + 2 * d := by exact_mod_cast hhi
  have hd' : (0 : K) < d := by exact_mod_cast hd
  have hquot : (s : K) / d * d = s := div_mul_cancel₀ _ hd'.ne'
  refine (round_eq_iff.2 ⟨?_, ?_⟩).symm
  · rw [← mul_le_mul_iff_left₀ hd', hquot]
    linarith
  · rw [← mul_lt_mul_iff_left₀ hd', hquot]
    linarith

/-- `roundDiv` rounds the exact quotient. -/
theorem roundDiv_eq_roundAway {s d : Int} (hd : 0 < d) :
    roundDiv s d = roundAway ((s : K) / d) := by
  have hd' : (0 : K) < d := by exact_mod_cast hd
  unfold roundDiv roundAway
  by_cases hs : 0 ≤ s
  · have hq : (0 : K) ≤ s / d := div_nonneg (by exact_mod_cast hs) hd'.le
    rw [if_pos hs, if_pos hq, tdiv_half_eq_round (K := K) hs hd]
  · have hs' : (s : K) < 0 := by exact_mod_cast not_le.1 hs
    have hq : ¬ (0 : K) ≤ s / d := not_le.2 (div_neg_of_neg_of_pos hs' hd')
    rw [if_neg hs, if_neg hq, tdiv_half_eq_round (K := K) (by omega) hd, Int.cast_neg, neg_div]

end Round

/-! ## Linear fractional maps -/

section Fractional

variable {a b : K}

/-- `t ↦ a * t / (b + t)`. -/
def fracRise (a b t : K) : K := a * t / (b + t)

/-- `x ↦ b * x / (a - x)`. -/
def fracFall (a b x : K) : K := b * x / (a - x)

/-- The maps undo each other. -/
theorem fracFall_fracRise (ha : a ≠ 0) (hb : b ≠ 0) {t : K} (ht : b + t ≠ 0) :
    fracFall a b (fracRise a b t) = t := by
  have hden : a - a * t / (b + t) = a * b / (b + t) := by
    field_simp
    ring
  rw [fracFall, fracRise, hden]
  field_simp

variable [LinearOrder K] [IsStrictOrderedRing K]

theorem fracRise_le_fracRise (ha : 0 ≤ a) (hb : 0 ≤ b) {t u : K} (ht : 0 < b + t) (h : t ≤ u) :
    fracRise a b t ≤ fracRise a b u := by
  have hu : 0 < b + u := by linarith
  have hmul := mul_le_mul_of_nonneg_left h (mul_nonneg ha hb)
  rw [fracRise, fracRise, div_le_div_iff₀ ht hu]
  linarith

/-- What a step of the argument does to the value. -/
theorem fracFall_sub {x z : K} (hx : x < a) (hz : z < a) :
    fracFall a b z - fracFall a b x = a * b * (z - x) / ((a - z) * (a - x)) := by
  have hx' : a - x ≠ 0 := by linarith
  have hz' : a - z ≠ 0 := by linarith
  rw [fracFall, fracFall]
  field_simp
  ring

theorem fracFall_le_fracFall (ha : 0 ≤ a) (hb : 0 ≤ b) {x z : K} (hz : z < a) (h : x ≤ z) :
    fracFall a b x ≤ fracFall a b z := by
  have hx : x < a := by linarith
  have hpos : 0 ≤ a * b * (z - x) / ((a - z) * (a - x)) :=
    div_nonneg (mul_nonneg (mul_nonneg ha hb) (by linarith))
      (mul_nonneg (by linarith) (by linarith))
  have := fracFall_sub (b := b) hx hz
  linarith

/-- Away from the pole the map stretches distances by a bounded factor. -/
theorem abs_fracFall_sub_le (ha : 0 ≤ a) (hb : 0 ≤ b) {m x z : K} (hm : 0 < m) (hx : m ≤ a - x)
    (hz : m ≤ a - z) : |fracFall a b z - fracFall a b x| ≤ a * b / (m * m) * |z - x| := by
  have hx' : 0 < a - x := by linarith
  have hz' : 0 < a - z := by linarith
  have hden : m * m ≤ (a - z) * (a - x) := mul_le_mul hz hx hm.le hz'.le
  have hnum : 0 ≤ a * b * |z - x| := mul_nonneg (mul_nonneg ha hb) (abs_nonneg _)
  rw [fracFall_sub (by linarith) (by linarith), abs_div, abs_mul, abs_of_nonneg (mul_nonneg ha hb),
    abs_of_pos (mul_pos hz' hx')]
  calc a * b * |z - x| / ((a - z) * (a - x))
      ≤ a * b * |z - x| / (m * m) := div_le_div_of_nonneg_left hnum (mul_pos hm hm) hden
    _ = a * b / (m * m) * |z - x| := by ring

end Fractional

end ClimateNode.Machine
