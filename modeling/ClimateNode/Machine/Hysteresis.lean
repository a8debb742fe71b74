import Mathlib.Data.List.Induction
import Mathlib.Order.Lattice

/-!
# A two-threshold switch

A switch with two thresholds turns on below the lower one, off above the upper one, and stays as it
is in between. Over a sequence of values it is decided by the last value outside the band
(`settle_eq`), so two switches that are fed the same values agree from the first value outside the
band on, and not before (`settle_eq_settle_iff`).
-/

set_option autoImplicit false

namespace ClimateNode.Machine

universe u

variable {α : Type u} [LinearOrder α]

/-- The switch after the value `x`. -/
def hysteresis (lo hi : α) (on : Bool) (x : α) : Bool :=
  if on then !decide (hi < x) else decide (x < lo)

/-- The value is outside the band. -/
def OutsideBand (lo hi x : α) : Prop := x < lo ∨ hi < x

instance (lo hi x : α) : Decidable (OutsideBand lo hi x) := inferInstanceAs (Decidable (_ ∨ _))

/-- The switch after the values `xs`. -/
def settle (lo hi : α) (on : Bool) (xs : List α) : Bool := xs.foldl (hysteresis lo hi) on

section Band

variable {lo hi : α}

/-- Outside the band the value decides. -/
theorem hysteresis_of_outside (h : lo ≤ hi) {x : α} (hx : OutsideBand lo hi x) (on : Bool) :
    hysteresis lo hi on x = decide (x < lo) := by
  rcases hx with hx | hx
  · have hnot : ¬ hi < x := not_lt.2 (le_of_lt (lt_of_lt_of_le hx h))
    cases on with
    | false => rfl
    | true => simp only [hysteresis, if_true, hnot, hx, decide_false, decide_true, Bool.not_false]
  · have hnot : ¬ x < lo := not_lt.2 (le_of_lt (lt_of_le_of_lt h hx))
    cases on with
    | false => rfl
    | true => simp only [hysteresis, if_true, hnot, hx, decide_false, decide_true, Bool.not_true]

/-- Inside the band the switch keeps its state. -/
theorem hysteresis_of_inside {x : α} (hx : ¬ OutsideBand lo hi x) (on : Bool) :
    hysteresis lo hi on x = on := by
  obtain ⟨hlo, hhi⟩ := not_or.1 hx
  cases on with
  | false => simp only [hysteresis, Bool.false_eq_true, if_false, hlo, decide_false]
  | true => simp only [hysteresis, if_true, hhi, decide_false, Bool.not_false]

/-- The last value outside the band decides, and without one the switch keeps its state. -/
theorem settle_eq (h : lo ≤ hi) (on : Bool) (xs : List α) :
    settle lo hi on xs =
      (((xs.filter fun x => decide (OutsideBand lo hi x)).getLast?).map
        fun x => decide (x < lo)).getD on := by
  induction xs using List.reverseRecOn with
  | nil => rfl
  | append_singleton xs x ih =>
      have hstep : settle lo hi on (xs ++ [x]) = hysteresis lo hi (settle lo hi on xs) x := by
        rw [settle, List.foldl_append]
        rfl
      rw [hstep, List.filter_append]
      by_cases hx : OutsideBand lo hi x
      · rw [hysteresis_of_outside h hx]
        simp [hx]
      · rw [hysteresis_of_inside hx, ih]
        simp [hx]

/-- Two switches fed the same values agree exactly when they agreed before or one of the values is
outside the band. -/
theorem settle_eq_settle_iff (h : lo ≤ hi) (a b : Bool) (xs : List α) :
    settle lo hi a xs = settle lo hi b xs ↔ a = b ∨ ∃ x ∈ xs, OutsideBand lo hi x := by
  rw [settle_eq h, settle_eq h]
  cases hlast : (xs.filter fun x => decide (OutsideBand lo hi x)).getLast? with
  | none =>
      have hnil := List.getLast?_eq_none_iff.1 hlast
      have hinside : ¬ ∃ x ∈ xs, OutsideBand lo hi x := by
        rintro ⟨x, hmem, hx⟩
        have : x ∈ xs.filter fun x => decide (OutsideBand lo hi x) :=
          List.mem_filter.2 ⟨hmem, decide_eq_true hx⟩
        rw [hnil] at this
        cases this
      simp only [Option.map_none, Option.getD_none, hinside, or_false]
  | some x =>
      have hmem := List.mem_filter.1 (List.mem_of_getLast? hlast)
      refine iff_of_true rfl (Or.inr ⟨x, hmem.1, of_decide_eq_true hmem.2⟩)

end Band

end ClimateNode.Machine
