import ClimateNode.Core.Dewpoint
import ClimateNode.Machine.Rounding
import Mathlib.Algebra.Order.Group.MinMax
import Mathlib.Data.Rat.Floor
import Mathlib.Tactic.NormNum

/-!
# The dew point as a numerical function

The code evaluates the formula of Magnus with two rounded divisions. Against the exact rational
value of the formula the second division amplifies the rounding of the first by less than two and a
half, so the result is within two hundredths of a degree (`dewpoint_accurate`). Rounding keeps the
order, and so do the interpolation and the clamps, so the result is monotone in the temperature and
in the humidity (`dewpoint_monotone`). On arguments of any size the function either refuses the
temperature or returns a value in range (`dewpoint_total`).
-/

set_option autoImplicit false

namespace ClimateNode.Core

open ClimateNode.Machine

/-! ## The formula -/

/-- The exact `alpha` of the temperature `t` and the logarithm `l`. -/
def magnusAlpha (t l : ℚ) : ℚ := 17684 * t / (23770 + t) + l

/-- The exact dew point for the sum `x`. -/
def magnusDew (x : ℚ) : ℚ := 23770 * x / (17684 - x)

section Formula

variable {t l : Int}

/-- `alpha` is the exact sum with a rounded quotient. -/
theorem alphaExact_eq_roundAway (ht : -4000 ≤ t) :
    alphaExact t l = roundAway (fracRise 17684 23770 (t : ℚ)) + l := by
  rw [alphaExact, roundDiv_eq_roundAway (K := ℚ) (by omega : 0 < 23770 + t), fracRise]
  push_cast
  rfl

/-- The second quotient, rounded. -/
theorem dewQuotient_eq_roundAway {α : Int} (h : α < 17684) :
    roundDiv (23770 * α) (17684 - α) = roundAway (fracFall 17684 23770 (α : ℚ)) := by
  rw [roundDiv_eq_roundAway (K := ℚ) (by omega : 0 < 17684 - α), fracFall]
  push_cast
  rfl

/-- The first rounding moves `alpha` by at most a half. -/
theorem abs_alphaExact_sub_le (ht : -4000 ≤ t) :
    |(alphaExact t l : ℚ) - magnusAlpha t l| ≤ 1 / 2 := by
  have h := abs_roundAway_sub_le (fracRise 17684 23770 (t : ℚ))
  rw [alphaExact_eq_roundAway ht, magnusAlpha]
  push_cast
  rw [add_sub_add_right_eq_sub]
  exact h

/-- The second division amplifies that by less than two and a half, and rounds once more. -/
theorem abs_dewQuotient_sub_le (ht : -4000 ≤ t ∧ t ≤ 8500) (hl : -4716 ≤ l ∧ l ≤ 0) :
    |(roundDiv (23770 * alphaExact t l) (17684 - alphaExact t l) : ℚ) -
      magnusDew (magnusAlpha t l)| ≤ 2 := by
  have halpha := (alphaExact_mem ht hl).2
  have hfirst := abs_alphaExact_sub_le (l := l) ht.1
  have hle : (alphaExact t l : ℚ) ≤ 4658 := by exact_mod_cast halpha
  obtain ⟨hlo, hhi⟩ := abs_le.1 hfirst
  rw [dewQuotient_eq_roundAway (by omega)]
  have hround := abs_roundAway_sub_le (fracFall 17684 23770 (alphaExact t l : ℚ))
  -- both arguments stay 13025 below the pole
  have hstretch := abs_fracFall_sub_le (a := (17684 : ℚ)) (b := 23770) (m := 13025) (by norm_num)
    (by norm_num) (by norm_num) (x := magnusAlpha t l) (z := alphaExact t l) (by linarith)
    (by linarith)
  have hfactor : (17684 : ℚ) * 23770 / (13025 * 13025) * |alphaExact t l - magnusAlpha t l| ≤
      5 / 2 * (1 / 2) :=
    mul_le_mul (by norm_num) hfirst (abs_nonneg _) (by norm_num)
  calc |(roundAway (fracFall 17684 23770 (alphaExact t l : ℚ)) : ℚ) -
        magnusDew (magnusAlpha t l)|
      ≤ |(roundAway (fracFall 17684 23770 (alphaExact t l : ℚ)) : ℚ) -
            fracFall 17684 23770 (alphaExact t l : ℚ)| +
          |fracFall 17684 23770 (alphaExact t l : ℚ) - magnusDew (magnusAlpha t l)| :=
        abs_sub_le _ _ _
    _ ≤ 1 / 2 + 5 / 2 * (1 / 2) := add_le_add hround (hstretch.trans hfactor)
    _ ≤ 2 := by norm_num

/-- The formula gives the temperature back without the logarithm. -/
theorem magnusDew_magnusAlpha_zero (ht : -4000 ≤ t) : magnusDew (magnusAlpha t 0) = t := by
  have ht' : (-4000 : ℚ) ≤ t := by exact_mod_cast ht
  have hden : (23770 : ℚ) + t ≠ 0 := by linarith
  rw [magnusAlpha, add_zero]
  exact fracFall_fracRise (by norm_num) (by norm_num) hden

/-- The formula stays below the temperature. -/
theorem magnusDew_le (ht : -4000 ≤ t ∧ t ≤ 8500) (hl : l ≤ 0) :
    magnusDew (magnusAlpha t l) ≤ t := by
  have hl' : (l : ℚ) ≤ 0 := by exact_mod_cast hl
  have hpole : magnusAlpha t 0 < 17684 := by
    have h := (abs_le.1 (abs_alphaExact_sub_le (l := 0) ht.1)).1
    have hle : (alphaExact t 0 : ℚ) ≤ 4658 := by
      exact_mod_cast (alphaExact_mem ht (by omega : -4716 ≤ (0 : Int) ∧ (0 : Int) ≤ 0)).2
    rw [Int.cast_zero] at h
    linarith
  have hstep : magnusAlpha t l ≤ magnusAlpha t 0 := by
    rw [magnusAlpha, magnusAlpha]
    linarith
  calc magnusDew (magnusAlpha t l)
      ≤ magnusDew (magnusAlpha t 0) :=
        fracFall_le_fracFall (by norm_num) (by norm_num) hpole hstep
    _ = t := magnusDew_magnusAlpha_zero ht.1

/-- The clamps bring the result no further away. -/
theorem abs_dewpointExact_sub_le (ht : -4000 ≤ t ∧ t ≤ 8500) (hl : -4716 ≤ l ∧ l ≤ 0) :
    |(dewpointExact t l : ℚ) - max (magnusDew (magnusAlpha t l)) (-4000)| ≤ 2 := by
  have hquot := abs_dewQuotient_sub_le ht hl
  have hmin := min_eq_left (magnusDew_le ht hl.2)
  rw [dewpointExact]
  push_cast
  refine (abs_max_sub_max_le_abs _ _ _).trans ?_
  rw [← hmin]
  refine (abs_min_sub_min_le_max _ _ _ _).trans (max_le hquot ?_)
  rw [sub_self, abs_zero]
  norm_num

end Formula

/-! ## Order -/

section Order

/-- The rounded sum keeps the order in both arguments. -/
theorem alphaExact_mono {t₁ t₂ l₁ l₂ : Int} (ht₁ : -4000 ≤ t₁) (ht : t₁ ≤ t₂) (hl : l₁ ≤ l₂) :
    alphaExact t₁ l₁ ≤ alphaExact t₂ l₂ := by
  have ht₁' : (-4000 : ℚ) ≤ t₁ := by exact_mod_cast ht₁
  have ht' : (t₁ : ℚ) ≤ t₂ := by exact_mod_cast ht
  have hrise := fracRise_le_fracRise (a := (17684 : ℚ)) (b := 23770) (by norm_num) (by norm_num)
    (by linarith) ht'
  have hround := roundAway_mono hrise
  rw [alphaExact_eq_roundAway ht₁, alphaExact_eq_roundAway (by omega)]
  omega

theorem dewpointExact_mono {t₁ t₂ l₁ l₂ : Int} (ht₁ : -4000 ≤ t₁) (ht₂ : t₂ ≤ 8500)
    (ht : t₁ ≤ t₂) (hl₁ : -4716 ≤ l₁) (hl₂ : l₂ ≤ 0) (hl : l₁ ≤ l₂) :
    dewpointExact t₁ l₁ ≤ dewpointExact t₂ l₂ := by
  have halpha := alphaExact_mono ht₁ ht hl
  have hpole := (alphaExact_mem (t := t₂) (l := l₂) ⟨by omega, ht₂⟩ ⟨by omega, hl₂⟩).2
  have halpha' : (alphaExact t₁ l₁ : ℚ) ≤ alphaExact t₂ l₂ := by exact_mod_cast halpha
  have hpole' : (alphaExact t₂ l₂ : ℚ) < 17684 := by
    exact_mod_cast (by omega : alphaExact t₂ l₂ < 17684)
  have hfall := fracFall_le_fracFall (a := (17684 : ℚ)) (b := 23770) (by norm_num) (by norm_num)
    hpole' halpha'
  have hround := roundAway_mono hfall
  rw [← dewQuotient_eq_roundAway (by omega), ← dewQuotient_eq_roundAway (by omega)] at hround
  exact max_le_max (min_le_min hround ht) (Int.le_refl _)

variable (lut : DewpointLut)

/-- Within one percent the interpolation follows the fraction, and from one percent to the next it
passes the entry between them. -/
theorem lnInterp_mono {r₁ r₂ : Nat} (hlo : 100 ≤ r₁) (h : r₁ ≤ r₂) (hhi : r₂ ≤ 10000) :
    lnInterp lut r₁ ≤ lnInterp lut r₂ := by
  have hdiv : r₁ / 100 ≤ r₂ / 100 := Nat.div_le_div_right h
  rcases Nat.lt_or_eq_of_le hdiv with hlt | heq
  · calc lnInterp lut r₁
        ≤ lnAt lut (min (r₁ / 100 + 1) 100) := (lnInterp_mem lut hlo (by omega)).2
      _ ≤ lnAt lut (r₂ / 100) := lnAt_mono lut (by omega) (by omega) (by omega)
      _ ≤ lnInterp lut r₂ := (lnInterp_mem lut (by omega) hhi).1
  · have hfrac : ((r₁ % 100 : Nat) : Int) ≤ (r₂ % 100 : Nat) := by omega
    have hstep := lnAt_mono lut (by omega : 0 < r₂ / 100)
      (by omega : r₂ / 100 ≤ min (r₂ / 100 + 1) 100) (by omega)
    have hmul := Int.mul_le_mul_of_nonneg_left hfrac
      (by omega : 0 ≤ lnAt lut (min (r₂ / 100 + 1) 100) - lnAt lut (r₂ / 100))
    have := Int.tdiv_le_tdiv (by decide : (0 : Int) < 100) hmul
    rw [lnInterp, lnInterp, heq]
    omega

theorem lnRhExact_mono {rh₁ rh₂ : RhCp} (h : rh₁ ≤ rh₂) :
    lnRhExact lut rh₁ ≤ lnRhExact lut rh₂ := by
  have hle := UInt32.le_iff_toNat_le.1 h
  have h₁ := toNat_clampRh rh₁
  have h₂ := toNat_clampRh rh₂
  rw [lnRhExact_eq, lnRhExact_eq]
  exact lnInterp_mono lut (by omega) (by omega) (by omega)

end Order

/-! ## The function -/

section Function

variable (lut : DewpointLut)

/-- The temperatures that the function accepts. -/
theorem inRange_iff (tempCd : TempCd) :
    (tempCdMin ≤ tempCd ∧ tempCd ≤ tempCdMax) ↔
      -4000 ≤ tempCd.toInt ∧ tempCd.toInt ≤ 8500 := by
  rw [Int32.le_iff_toInt_le, Int32.le_iff_toInt_le, toInt_tempCdMin, toInt_tempCdMax]

/-- For a temperature in range the result is within two hundredths of a degree of the exact value of
the formula for the interpolated logarithm, and of the temperature at saturation. -/
theorem dewpoint_accurate {tempCd : TempCd} (rhCp : RhCp)
    (ht : tempCdMin ≤ tempCd ∧ tempCd ≤ tempCdMax) :
    ∃ d l, dewpointCalcCd lut tempCd rhCp = .ok (.ok d) ∧ lnRhQ10 lut rhCp = .ok l ∧
      |(d.toInt : ℚ) - max (magnusDew (magnusAlpha tempCd.toInt l.toInt)) tempCdMin.toInt| ≤ 2 ∧
      (rhCpMax ≤ rhCp → |(d.toInt : ℚ) - tempCd.toInt| ≤ 2) := by
  have ht' := (inRange_iff tempCd).1 ht
  have hl := lnRhExact_mem lut rhCp
  obtain ⟨d, hd, hdv⟩ := dewpointCalcCd_spec lut rhCp ht'
  obtain ⟨l, hln, hlv⟩ := lnRhQ10_spec lut rhCp
  have hclose := abs_dewpointExact_sub_le ht' hl
  refine ⟨d, l, hd, hln, ?_, fun hsat => ?_⟩
  · rw [hdv, hlv, toInt_tempCdMin]
    push_cast
    exact hclose
  · -- at saturation the logarithm is zero
    have hrh : (clampRh rhCp).toNat = 10000 := by
      have := UInt32.le_iff_toNat_le.1 hsat
      rw [toNat_rhCpMax] at this
      rw [toNat_clampRh]
      omega
    have hzero : lnRhExact lut rhCp = 0 := by
      have h100 : lnAt lut 100 = 0 := lut.last
      rw [lnRhExact_eq, hrh]
      show lnAt lut 100 + ((lnAt lut 100 - lnAt lut 100) * (0 : Nat)).tdiv 100 = 0
      rw [h100]
      rfl
    have hfloor : (-4000 : ℚ) ≤ tempCd.toInt := by exact_mod_cast ht'.1
    rw [hzero, Int.cast_zero, magnusDew_magnusAlpha_zero ht'.1, max_eq_left hfloor] at hclose
    rw [hdv, hzero]
    exact hclose

/-- 25 degC and 50 %. -/
theorem dewpoint_accurate_half :
    ∃ d l, dewpointCalcCd dewpointLnRhQ10 2500 5000 = .ok (.ok d) ∧
      lnRhQ10 dewpointLnRhQ10 5000 = .ok l ∧
      |(d.toInt : ℚ) - max (magnusDew (magnusAlpha (2500 : Int32).toInt l.toInt))
        tempCdMin.toInt| ≤ 2 := by
  obtain ⟨d, l, hd, hl, hclose, -⟩ :=
    @dewpoint_accurate dewpointLnRhQ10 2500 5000 ⟨by decide, by decide⟩
  exact ⟨d, l, hd, hl, hclose⟩

/-- The result does not fall when the temperature or the humidity rises. -/
theorem dewpoint_monotone {t₁ t₂ : TempCd} {rh₁ rh₂ : RhCp} (ht₁ : tempCdMin ≤ t₁)
    (ht₂ : t₂ ≤ tempCdMax) (ht : t₁ ≤ t₂) (hrh : rh₁ ≤ rh₂) :
    ∃ d₁ d₂, dewpointCalcCd lut t₁ rh₁ = .ok (.ok d₁) ∧ dewpointCalcCd lut t₂ rh₂ = .ok (.ok d₂) ∧
      d₁ ≤ d₂ := by
  have hle := Int32.le_iff_toInt_le.1 ht
  have hin₁ := (inRange_iff t₁).1 ⟨ht₁, Int32.le_trans ht ht₂⟩
  have hin₂ := (inRange_iff t₂).1 ⟨Int32.le_trans ht₁ ht, ht₂⟩
  obtain ⟨d₁, h₁, hv₁⟩ := dewpointCalcCd_spec lut rh₁ hin₁
  obtain ⟨d₂, h₂, hv₂⟩ := dewpointCalcCd_spec lut rh₂ hin₂
  refine ⟨d₁, d₂, h₁, h₂, Int32.le_iff_toInt_le.2 ?_⟩
  rw [hv₁, hv₂]
  exact dewpointExact_mono hin₁.1 hin₂.2 hle (lnRhExact_mem lut rh₁).1 (lnRhExact_mem lut rh₂).2
    (lnRhExact_mono lut hrh)

/-- From 25 degC and 50 % to 30 degC and a humidity above 100 %. -/
theorem dewpoint_monotone_rise :
    ∃ d₁ d₂, dewpointCalcCd dewpointLnRhQ10 2500 5000 = .ok (.ok d₁) ∧
      dewpointCalcCd dewpointLnRhQ10 3000 20000 = .ok (.ok d₂) ∧ d₁ ≤ d₂ :=
  dewpoint_monotone dewpointLnRhQ10 (by decide) (by decide) (by decide) (by decide)

/-- The table entries that `ln_rh_q10` reads are in the table. -/
theorem lnIndex_le (rhCp : RhCp) :
    (clampRh rhCp / 100).toNat ≤ 100 ∧
      (clampRh rhCp / 100 < 100 → (clampRh rhCp / 100 + 1).toNat ≤ 100) := by
  have hrh := toNat_clampRh rhCp
  have hpercent : (clampRh rhCp / 100).toNat = (clampRh rhCp).toNat / 100 := UInt32.toNat_div _ _
  refine ⟨by omega, fun hlt => ?_⟩
  have hlt' : (clampRh rhCp / 100).toNat < 100 := UInt32.lt_iff_toNat_lt.1 hlt
  rw [UInt32.toNat_add]
  show ((clampRh rhCp / 100).toNat + 1) % 4294967296 ≤ 100
  omega

/-- The code of `dewpoint_calc_cd` and what `*out_dew_cd` holds afterwards. -/
def dewpointCalcCdInto (tempCd : TempCd) (rhCp : RhCp) (outDewCd : TempCd) :
    Checked (Err × TempCd) := do
  match ← dewpointCalcCd lut tempCd rhCp with
  | .ok dewCd => pure (.ok, dewCd)
  | .error e => pure (e, outDewCd)

/-- The function refuses exactly the temperatures out of range, and leaves the output alone then.
For any other it returns `ERR_OK` and a value between `TEMP_CD_MIN` and the temperature: every step
returns without a fault, both divisors are positive and the table is read at entries 0 to 100. -/
theorem dewpoint_total (tempCd : TempCd) (rhCp : RhCp) (outDewCd : TempCd) :
    (dewpointCalcCdInto lut tempCd rhCp outDewCd = .ok (.outOfRange, outDewCd) ↔
      ¬ (tempCdMin ≤ tempCd ∧ tempCd ≤ tempCdMax)) ∧
    (tempCdMin ≤ tempCd ∧ tempCd ≤ tempCdMax →
      (∃ d, dewpointCalcCdInto lut tempCd rhCp outDewCd = .ok (.ok, d) ∧ tempCdMin ≤ d ∧
        d ≤ tempCd) ∧
      ∃ denomT num₁ term1Q10 lnQ10 alphaQ10 denomQ10 num₂ dewCd,
        DewpointSteps lut tempCd rhCp denomT num₁ term1Q10 lnQ10 alphaQ10 denomQ10 num₂ dewCd) ∧
    (clampRh rhCp / 100).toNat ≤ 100 ∧
      (clampRh rhCp / 100 < 100 → (clampRh rhCp / 100 + 1).toNat ≤ 100) := by
  have hin : tempCdMin ≤ tempCd ∧ tempCd ≤ tempCdMax →
      ∃ d, dewpointCalcCdInto lut tempCd rhCp outDewCd = .ok (.ok, d) ∧ tempCdMin ≤ d ∧
        d ≤ tempCd := by
    intro ht
    have ht' := (inRange_iff tempCd).1 ht
    obtain ⟨d, hd, hdv⟩ := dewpointCalcCd_spec lut rhCp ht'
    have hmem := dewpointExact_mem (l := lnRhExact lut rhCp) ht'
    rw [← hdv] at hmem
    refine ⟨d, ?_, Int32.le_iff_toInt_le.2 hmem.1, Int32.le_iff_toInt_le.2 hmem.2⟩
    rw [dewpointCalcCdInto, hd]
    rfl
  refine ⟨⟨fun hrefused ht => ?_, fun hout => ?_⟩, fun ht => ⟨hin ht, ?_⟩, lnIndex_le rhCp⟩
  · obtain ⟨d, hd, -⟩ := hin ht
    rw [hd] at hrefused
    cases hrefused
  · rw [not_and_or, Int32.not_le, Int32.not_le] at hout
    rw [dewpointCalcCdInto, dewpointCalcCd_outOfRange lut rhCp hout]
    rfl
  · exact exists_dewpointSteps lut rhCp ((inRange_iff tempCd).1 ht)

end Function

end ClimateNode.Core
