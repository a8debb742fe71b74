import ClimateNode.Core.Types

/-!
# The dew point in fixed point

`core/dewpoint.c`. The logarithm table is generated at build time by `tools/gen_dewpoint_lut.py`, so
it is a parameter here: `DewpointLut` is a table of 101 entries with the properties of the generated
one that the arithmetic relies on, and `dewpointLnRhQ10` is the table the generator prints.

For a temperature in the sensor range and any humidity, every intermediate `int32_t` result is
exact, every table index is in bounds and both divisors are positive; the function returns the exact
value `dewpointExact` (`dewpointCalcCd_spec`), which lies between `TEMP_CD_MIN` and the temperature
(`dewpointExact_mem`).
-/

set_option autoImplicit false

namespace ClimateNode.Core

open ClimateNode.Machine

/-- The table `dewpoint_ln_rh_q10`: `ln(RH / 100)` in Q10 for whole percents. Entries 1 to 100 do
not decrease; entry 0 is unused. -/
structure DewpointLut where
  entries : Vector Int32 101
  mono : ∀ i : Fin 100, 0 < i.val → (entries[i.val]).toInt ≤ (entries[i.val + 1]).toInt
  first : (entries[1]).toInt = -4716
  last : (entries[100]).toInt = 0

/-- The table printed by `gen_dewpoint_lut.py`. -/
def dewpointLnRhQ10 : DewpointLut where
  entries := #v[
    -9431, -4716, -4006, -3591, -3296, -3068, -2881, -2723, -2586, -2466,
    -2358, -2260, -2171, -2089, -2013, -1943, -1877, -1814, -1756, -1701,
    -1648, -1598, -1550, -1505, -1461, -1420, -1379, -1341, -1304, -1268,
    -1233, -1199, -1167, -1135, -1105, -1075, -1046, -1018, -991, -964,
    -938, -913, -888, -864, -841, -818, -795, -773, -752, -730,
    -710, -690, -670, -650, -631, -612, -594, -576, -558, -540,
    -523, -506, -490, -473, -457, -441, -425, -410, -395, -380,
    -365, -351, -336, -322, -308, -295, -281, -268, -254, -241,
    -228, -216, -203, -191, -179, -166, -154, -143, -131, -119,
    -108, -97, -85, -74, -63, -53, -42, -31, -21, -10,
    0]
  mono := by decide +kernel
  first := by decide
  last := by decide

/-- `A_Q10`. -/
def aQ10 : Int32 := 17684

/-- `B_CD`. -/
def bCd : Int32 := 23770

@[simp] theorem toInt_aQ10 : aQ10.toInt = 17684 := rfl
@[simp] theorem toInt_bCd : bCd.toInt = 23770 := rfl

/-- `div_round_pos_den`. -/
def divRoundPosDen (numerator denominator : Int32) : Checked Int32 :=
  if numerator ≥ 0 then do
    let half ← divI32 denominator 2
    let s ← addI32 numerator half
    divI32 s denominator
  else do
    let n ← negI32 numerator
    let half ← divI32 denominator 2
    let s ← addI32 n half
    let q ← divI32 s denominator
    negI32 q

/-- The clamp of the humidity to 1 % .. 100 % in `ln_rh_q10`. -/
def clampRh (rhCp : RhCp) : RhCp :=
  let localRh := if rhCp < 100 then 100 else rhCp
  if localRh > rhCpMax then rhCpMax else localRh

/-- The upper neighbour `y1` of the entry `y0` in `ln_rh_q10`. -/
def lnUpper (lut : DewpointLut) (percent : UInt32) (y0 : Int32) : Checked Int32 :=
  if percent < 100 then readAt lut.entries (percent + 1).toNat else .ok y0

/-- `ln_rh_q10`. -/
def lnRhQ10 (lut : DewpointLut) (rhCp : RhCp) : Checked Int32 := do
  let localRh := clampRh rhCp
  let percent := localRh / 100
  let frac := localRh % 100
  let y0 ← readAt lut.entries percent.toNat
  let y1 ← lnUpper lut percent y0
  let dy ← subI32 y1 y0
  let m ← mulI32 dy frac.toInt32
  let q ← divI32 m 100
  addI32 y0 q

/-- The physical sanity clamps at the end of `dewpoint_calc_cd`. -/
def clampDew (tempCd dewCd : TempCd) : TempCd :=
  let dewCd := if dewCd > tempCd then tempCd else dewCd
  let dewCd := if dewCd < tempCdMin then tempCdMin else dewCd
  if dewCd > tempCdMax then tempCdMax else dewCd

/-- `dewpoint_calc_cd`: `ERR_OK` with the value written to `*out_dew_cd`, or an error code with the
output untouched. -/
def dewpointCalcCd (lut : DewpointLut) (tempCd : TempCd) (rhCp : RhCp) :
    Checked (Except Err TempCd) :=
  if tempCd < tempCdMin ∨ tempCd > tempCdMax then pure (.error .outOfRange)
  else do
    let denomT ← addI32 bCd tempCd
    -- both divisors are checked before they are used
    if denomT ≤ 0 then pure (.error .math)
    else do
      let num ← mulI32 aQ10 tempCd
      let term1Q10 ← divRoundPosDen num denomT
      let lnQ10 ← lnRhQ10 lut rhCp
      let alphaQ10 ← addI32 term1Q10 lnQ10
      let denomQ10 ← subI32 aQ10 alphaQ10
      if denomQ10 ≤ 0 then pure (.error .math)
      else do
        let num ← mulI32 bCd alphaQ10
        let dewCd ← divRoundPosDen num denomQ10
        pure (.ok (clampDew tempCd dewCd))

/-! ## Exact values -/

/-- Table entry `i` as an integer. -/
def lnAt (lut : DewpointLut) (i : Nat) : Int := ((lut.entries[i]?).getD 0).toInt

/-- The exact value of `ln_rh_q10`. -/
def lnRhExact (lut : DewpointLut) (rhCp : RhCp) : Int :=
  let percent := (clampRh rhCp).toNat / 100
  let y0 := lnAt lut percent
  let y1 := lnAt lut (min (percent + 1) 100)
  y0 + ((y1 - y0) * ((clampRh rhCp).toNat % 100 : Nat)).tdiv 100

/-- `alpha_q10` for the temperature `t` and the logarithm `l`. -/
def alphaExact (t l : Int) : Int := roundDiv (17684 * t) (23770 + t) + l

/-- The exact result of `dewpoint_calc_cd` for a temperature in range. -/
def dewpointExact (t l : Int) : Int :=
  max (min (roundDiv (23770 * alphaExact t l) (17684 - alphaExact t l)) t) (-4000)

section Division

/-- While the dividend leaves room for half the divisor, the division returns the rounded
quotient. -/
theorem divRoundPosDen_spec {n d : Int32} (hd : 0 < d.toInt)
    (hn : -2147483647 ≤ n.toInt - d.toInt ∧ n.toInt + d.toInt ≤ 2147483647) :
    ∃ r, divRoundPosDen n d = .ok r ∧ r.toInt = roundDiv n.toInt d.toInt := by
  have hhalf : d.toInt.tdiv 2 = d.toInt / 2 := Int.tdiv_eq_ediv_of_nonneg (by omega)
  obtain ⟨half, h₁, hv₁⟩ := divI32_spec (a := d) (b := 2) (by decide)
  have htwo : (2 : Int32).toInt = 2 := rfl
  rw [htwo] at hv₁
  by_cases hpos : 0 ≤ n.toInt
  · -- half the divisor is added to the dividend
    have hge : n ≥ 0 := Int32.le_iff_toInt_le.2 hpos
    obtain ⟨s, h₂, hv₂⟩ := addI32_spec (a := n) (b := half) ⟨by omega, by omega⟩
    obtain ⟨q, h₃, hv₃⟩ := divI32_spec (a := s) hd
    refine ⟨q, ?_, ?_⟩
    · simp only [divRoundPosDen, if_pos hge, h₁, h₂, h₃, checked_ok_bind]
    · rw [hv₃, hv₂, hv₁, roundDiv, if_pos hpos]
  · -- the same with the dividend negated, and the quotient negated back
    have hge : ¬ n ≥ 0 := fun h => hpos (Int32.le_iff_toInt_le.1 h)
    obtain ⟨m, h₀, hv₀⟩ := negI32_spec (a := n) ⟨by omega, by omega⟩
    obtain ⟨s, h₂, hv₂⟩ := addI32_spec (a := m) (b := half) ⟨by omega, by omega⟩
    obtain ⟨q, h₃, hv₃⟩ := divI32_spec (a := s) hd
    have hq : q.toInt = (-n.toInt + d.toInt.tdiv 2).tdiv d.toInt := by rw [hv₃, hv₂, hv₁, hv₀]
    have hq0 : 0 ≤ q.toInt := by
      rw [hq]
      exact Int.tdiv_nonneg (by omega) (by omega)
    have hqb := (inInt32_toInt q).2
    obtain ⟨r, h₄, hv₄⟩ := negI32_spec (a := q) ⟨by omega, by omega⟩
    refine ⟨r, ?_, ?_⟩
    · simp only [divRoundPosDen, if_neg hge, h₀, h₁, h₂, h₃, h₄, checked_ok_bind]
    · rw [hv₄, hq, roundDiv, if_neg hpos]

end Division

section Table

variable (lut : DewpointLut)

theorem readAt_entries {i : Nat} (h : i ≤ 100) :
    ∃ y, readAt lut.entries i = .ok y ∧ y.toInt = lnAt lut i := by
  have hi : i < 101 := by omega
  exact ⟨lut.entries[i], readAt_spec _ hi, by simp [lnAt, hi]⟩

/-- Entries 1 to 100 do not decrease. -/
theorem lnAt_mono {i j : Nat} (hi : 0 < i) (hij : i ≤ j) (hj : j ≤ 100) :
    lnAt lut i ≤ lnAt lut j := by
  induction j, hij using Nat.le_induction with
  | base => exact Int.le_refl _
  | succ j hij ih =>
      have hstep := lut.mono ⟨j, by omega⟩ (by show 0 < j; omega)
      have h₁ : lnAt lut j = (lut.entries[j]).toInt := by simp [lnAt, show j < 101 by omega]
      have h₂ : lnAt lut (j + 1) = (lut.entries[j + 1]).toInt := by
        simp [lnAt, show j + 1 < 101 by omega]
      rw [h₂]
      exact Int.le_trans (h₁ ▸ ih (by omega)) hstep

theorem lnAt_mem {i : Nat} (hi : 0 < i) (hj : i ≤ 100) : -4716 ≤ lnAt lut i ∧ lnAt lut i ≤ 0 := by
  have h₁ : lnAt lut 1 = -4716 := lut.first
  have h₂ : lnAt lut 100 = 0 := lut.last
  exact ⟨h₁ ▸ lnAt_mono lut (by decide) hi hj, h₂ ▸ lnAt_mono lut hi hj (by decide)⟩

theorem toNat_clampRh (rhCp : RhCp) : (clampRh rhCp).toNat = min (max rhCp.toNat 100) 10000 := by
  have h100 : (100 : UInt32).toNat = 100 := rfl
  unfold clampRh
  simp only [UInt32.lt_iff_toNat_lt, gt_iff_lt, toNat_rhCpMax, h100]
  split
  · rw [h100, if_neg (by omega), h100]
    omega
  · split
    · rw [toNat_rhCpMax]
      omega
    · omega

/-- The interpolation at the humidity `r`, between the entries of its whole percent and of the
next. -/
def lnInterp (r : Nat) : Int :=
  lnAt lut (r / 100) +
    ((lnAt lut (min (r / 100 + 1) 100) - lnAt lut (r / 100)) * (r % 100 : Nat)).tdiv 100

theorem lnRhExact_eq (rhCp : RhCp) : lnRhExact lut rhCp = lnInterp lut (clampRh rhCp).toNat := rfl

/-- The interpolation stays between two neighbouring entries. -/
theorem lnInterp_mem {r : Nat} (hlo : 100 ≤ r) (hhi : r ≤ 10000) :
    lnAt lut (r / 100) ≤ lnInterp lut r ∧
      lnInterp lut r ≤ lnAt lut (min (r / 100 + 1) 100) := by
  -- from 1 % on the table does not decrease
  have hm := lnAt_mono lut (by omega : 0 < r / 100)
    (by omega : r / 100 ≤ min (r / 100 + 1) 100) (by omega)
  have h0 : 0 ≤ (lnAt lut (min (r / 100 + 1) 100) - lnAt lut (r / 100)) * (r % 100 : Nat) :=
    Int.mul_nonneg (by omega) (by omega)
  have h1 : (lnAt lut (min (r / 100 + 1) 100) - lnAt lut (r / 100)) * (r % 100 : Nat) ≤
      (lnAt lut (min (r / 100 + 1) 100) - lnAt lut (r / 100)) * 100 :=
    Int.mul_le_mul_of_nonneg_left (by omega) (by omega)
  obtain ⟨h₁, h₂⟩ := tdiv_mem_of_mul_mem (by decide) (by rw [Int.zero_mul]; exact h0) h1
  unfold lnInterp
  constructor <;> omega

theorem lnRhExact_mem (rhCp : RhCp) :
    -4716 ≤ lnRhExact lut rhCp ∧ lnRhExact lut rhCp ≤ 0 := by
  have hrh := toNat_clampRh rhCp
  rw [lnRhExact_eq]
  generalize (clampRh rhCp).toNat = r at hrh
  obtain ⟨hlo, hhi⟩ := lnInterp_mem lut (by omega : 100 ≤ r) (by omega)
  have h0 := lnAt_mem lut (by omega : 0 < r / 100) (by omega)
  have h1 := lnAt_mem lut (by omega : 0 < min (r / 100 + 1) 100) (by omega)
  exact ⟨Int.le_trans h0.1 hlo, Int.le_trans hhi h1.2⟩

/-- The second entry is the next one, or the last one again at 100 %. -/
theorem lnUpper_spec {percent : UInt32} (hle : percent.toNat ≤ 100) {y0 : Int32}
    (hy0 : y0.toInt = lnAt lut percent.toNat) :
    ∃ y1, lnUpper lut percent y0 = .ok y1 ∧ y1.toInt = lnAt lut (min (percent.toNat + 1) 100) := by
  by_cases hlt : percent < 100
  · have hlt' : percent.toNat < 100 := UInt32.lt_iff_toNat_lt.1 hlt
    have hnext : (percent + 1).toNat = percent.toNat + 1 := by
      rw [UInt32.toNat_add]
      show (percent.toNat + 1) % 4294967296 = _
      omega
    rw [lnUpper, if_pos hlt, hnext, Nat.min_eq_left (by omega)]
    exact readAt_entries lut (by omega)
  · have hge : 100 ≤ percent.toNat := Nat.not_lt.1 fun h => hlt (UInt32.lt_iff_toNat_lt.2 h)
    have htop : percent.toNat = 100 := Nat.le_antisymm hle hge
    refine ⟨y0, if_neg hlt, ?_⟩
    rw [hy0, htop, Nat.min_eq_right (by decide)]

theorem lnRhQ10_spec (rhCp : RhCp) :
    ∃ r, lnRhQ10 lut rhCp = .ok r ∧ r.toInt = lnRhExact lut rhCp := by
  have hrh := toNat_clampRh rhCp
  have hmem := lnRhExact_mem lut rhCp
  have hpercent : (clampRh rhCp / 100).toNat = (clampRh rhCp).toNat / 100 := UInt32.toNat_div _ _
  have hfrac : ((clampRh rhCp % 100).toInt32).toInt = ((clampRh rhCp).toNat % 100 : Nat) := by
    have hmod : (clampRh rhCp % 100).toNat = (clampRh rhCp).toNat % 100 := UInt32.toNat_mod _ _
    rw [toInt_toInt32_of_lt (by omega), hmod]
  obtain ⟨y0, h0, hv0⟩ := readAt_entries lut (i := (clampRh rhCp / 100).toNat) (by omega)
  obtain ⟨y1, h1, hv1⟩ := lnUpper_spec lut (by omega) hv0
  rw [hpercent] at hv0 hv1
  -- from here on only the integer value of the clamped humidity matters
  rw [lnRhExact_eq] at hmem ⊢
  unfold lnInterp at hmem ⊢
  generalize (clampRh rhCp).toNat = r at *
  have e0 := lnAt_mem lut (by omega : 0 < r / 100) (by omega)
  have e1 := lnAt_mem lut (by omega : 0 < min (r / 100 + 1) 100) (by omega)
  have hm := lnAt_mono lut (by omega : 0 < r / 100)
    (by omega : r / 100 ≤ min (r / 100 + 1) 100) (by omega)
  obtain ⟨dy, h2, hv2⟩ := subI32_spec (a := y1) (b := y0) ⟨by omega, by omega⟩
  have hlo : 0 ≤ dy.toInt * (r % 100 : Nat) := Int.mul_nonneg (by omega) (by omega)
  have hhi : dy.toInt * (r % 100 : Nat) ≤ 4716 * (r % 100 : Nat) :=
    Int.mul_le_mul_of_nonneg_right (by omega) (by omega)
  obtain ⟨m, h3, hv3⟩ := mulI32_spec (a := dy) (b := (clampRh rhCp % 100).toInt32) (by
    rw [hfrac]
    exact ⟨by omega, by omega⟩)
  obtain ⟨q, h4, hv4⟩ := divI32_spec (a := m) (b := 100) (by decide)
  have h100 : (100 : Int32).toInt = 100 := rfl
  rw [hv3, hv2, hv1, hv0, hfrac, h100] at hv4
  obtain ⟨z, h5, hv5⟩ := addI32_spec (a := y0) (b := q) (by
    rw [hv0, hv4]
    exact ⟨by omega, by omega⟩)
  refine ⟨z, ?_, by rw [hv5, hv0, hv4]⟩
  simp only [lnRhQ10, h0, h1, h2, h3, h4, h5, checked_ok_bind]

end Table

/-! ## The dew point -/

section Dewpoint

variable {t l : Int}

/-- The bounds of the first quotient, of the logarithm and of their sum. -/
theorem alphaExact_mem (ht : -4000 ≤ t ∧ t ≤ 8500) (hl : -4716 ≤ l ∧ l ≤ 0) :
    -8294 ≤ alphaExact t l ∧ alphaExact t l ≤ 4658 := by
  have hd : 0 < 23770 + t := by omega
  have hlo : -3578 ≤ roundDiv (17684 * t) (23770 + t) := le_roundDiv_of_lt hd (by omega)
  have hhi : roundDiv (17684 * t) (23770 + t) ≤ 4658 := roundDiv_le_of_lt hd (by omega)
  unfold alphaExact
  constructor <;> omega

theorem dewpointExact_mem (ht : -4000 ≤ t ∧ t ≤ 8500) :
    -4000 ≤ dewpointExact t l ∧ dewpointExact t l ≤ t := by
  unfold dewpointExact
  constructor <;> omega

theorem toInt_clampDew {tempCd dewCd : TempCd}
    (ht : -4000 ≤ tempCd.toInt ∧ tempCd.toInt ≤ 8500) :
    (clampDew tempCd dewCd).toInt = max (min dewCd.toInt tempCd.toInt) (-4000) := by
  simp only [clampDew, toInt_clampAbove, toInt_clampBelow, toInt_tempCdMin, toInt_tempCdMax]
  omega

/-- A temperature outside the sensor range is refused. -/
theorem dewpointCalcCd_outOfRange (lut : DewpointLut) {tempCd : TempCd} (rhCp : RhCp)
    (h : tempCd < tempCdMin ∨ tempCd > tempCdMax) :
    dewpointCalcCd lut tempCd rhCp = .ok (.error .outOfRange) := by
  rw [dewpointCalcCd, if_pos h, checked_pure]

/-- The values that the steps of `dewpoint_calc_cd` compute, one after the other. Each step returns,
both divisors are positive, and the last value is the exact quotient. -/
structure DewpointSteps (lut : DewpointLut) (tempCd : TempCd) (rhCp : RhCp)
    (denomT num₁ term1Q10 lnQ10 alphaQ10 denomQ10 num₂ dewCd : Int32) : Prop where
  denomT_eq : addI32 bCd tempCd = .ok denomT
  denomT_pos : 0 < denomT.toInt
  num₁_eq : mulI32 aQ10 tempCd = .ok num₁
  term1Q10_eq : divRoundPosDen num₁ denomT = .ok term1Q10
  lnQ10_eq : lnRhQ10 lut rhCp = .ok lnQ10
  alphaQ10_eq : addI32 term1Q10 lnQ10 = .ok alphaQ10
  denomQ10_eq : subI32 aQ10 alphaQ10 = .ok denomQ10
  denomQ10_pos : 0 < denomQ10.toInt
  num₂_eq : mulI32 bCd alphaQ10 = .ok num₂
  dewCd_eq : divRoundPosDen num₂ denomQ10 = .ok dewCd
  value : dewCd.toInt = roundDiv (23770 * alphaExact tempCd.toInt (lnRhExact lut rhCp))
    (17684 - alphaExact tempCd.toInt (lnRhExact lut rhCp))

/-- For a temperature in range every step returns. -/
theorem exists_dewpointSteps (lut : DewpointLut) {tempCd : TempCd} (rhCp : RhCp)
    (ht : -4000 ≤ tempCd.toInt ∧ tempCd.toInt ≤ 8500) :
    ∃ denomT num₁ term1Q10 lnQ10 alphaQ10 denomQ10 num₂ dewCd,
      DewpointSteps lut tempCd rhCp denomT num₁ term1Q10 lnQ10 alphaQ10 denomQ10 num₂ dewCd := by
  -- one specification lemma for each operation of the source, in its order
  obtain ⟨denomT, h₁, hv₁⟩ := addI32_spec (a := bCd) (b := tempCd) (by
    rw [toInt_bCd]
    exact ⟨by omega, by omega⟩)
  rw [toInt_bCd] at hv₁
  obtain ⟨num₁, h₂, hv₂⟩ := mulI32_spec (a := aQ10) (b := tempCd) (by
    rw [toInt_aQ10]
    exact ⟨by omega, by omega⟩)
  rw [toInt_aQ10] at hv₂
  obtain ⟨term1, h₃, hv₃⟩ := divRoundPosDen_spec (n := num₁) (d := denomT) (by omega)
    ⟨by omega, by omega⟩
  rw [hv₁, hv₂] at hv₃
  obtain ⟨lnQ, h₄, hv₄⟩ := lnRhQ10_spec lut rhCp
  -- `alpha` stays below 17684, so the second divisor is positive
  have halpha := alphaExact_mem ht (lnRhExact_mem lut rhCp)
  have hsum : term1.toInt + lnQ.toInt = alphaExact tempCd.toInt (lnRhExact lut rhCp) := by
    rw [hv₃, hv₄, alphaExact]
  obtain ⟨alpha, h₅, hv₅⟩ := addI32_spec (a := term1) (b := lnQ) (by
    rw [hsum]
    exact ⟨by omega, by omega⟩)
  rw [hsum] at hv₅
  obtain ⟨denomQ, h₆, hv₆⟩ := subI32_spec (a := aQ10) (b := alpha) (by
    rw [toInt_aQ10]
    exact ⟨by omega, by omega⟩)
  rw [toInt_aQ10] at hv₆
  obtain ⟨num₂, h₇, hv₇⟩ := mulI32_spec (a := bCd) (b := alpha) (by
    rw [toInt_bCd]
    exact ⟨by omega, by omega⟩)
  rw [toInt_bCd] at hv₇
  obtain ⟨dew, h₈, hv₈⟩ := divRoundPosDen_spec (n := num₂) (d := denomQ) (by omega)
    ⟨by omega, by omega⟩
  rw [hv₆, hv₇, hv₅] at hv₈
  exact ⟨denomT, num₁, term1, lnQ, alpha, denomQ, num₂, dew, h₁, by omega, h₂, h₃, h₄, h₅, h₆,
    by omega, h₇, h₈, hv₈⟩

/-- The function returns the last value, clamped. -/
theorem DewpointSteps.result {lut : DewpointLut} {tempCd : TempCd} {rhCp : RhCp}
    {denomT num₁ term1Q10 lnQ10 alphaQ10 denomQ10 num₂ dewCd : Int32}
    (h : DewpointSteps lut tempCd rhCp denomT num₁ term1Q10 lnQ10 alphaQ10 denomQ10 num₂ dewCd)
    (ht : -4000 ≤ tempCd.toInt ∧ tempCd.toInt ≤ 8500) :
    dewpointCalcCd lut tempCd rhCp = .ok (.ok (clampDew tempCd dewCd)) := by
  have hrange : ¬ (tempCd < tempCdMin ∨ tempCd > tempCdMax) := by
    simp only [gt_iff_lt, Int32.lt_iff_toInt_lt, toInt_tempCdMin, toInt_tempCdMax]
    omega
  have hnonpos : ∀ x : Int32, 0 < x.toInt → ¬ x ≤ 0 := by
    intro x hx hle
    have : x.toInt ≤ 0 := Int32.le_iff_toInt_le.1 hle
    omega
  simp only [dewpointCalcCd, if_neg hrange, h.denomT_eq, h.num₁_eq, h.term1Q10_eq, h.lnQ10_eq,
    h.alphaQ10_eq, h.denomQ10_eq, h.num₂_eq, h.dewCd_eq, checked_ok_bind,
    if_neg (hnonpos denomT h.denomT_pos), if_neg (hnonpos denomQ10 h.denomQ10_pos), checked_pure]

/-- For a temperature in range the function returns the exact dew point, without a fault. -/
theorem dewpointCalcCd_spec (lut : DewpointLut) {tempCd : TempCd} (rhCp : RhCp)
    (ht : -4000 ≤ tempCd.toInt ∧ tempCd.toInt ≤ 8500) :
    ∃ d, dewpointCalcCd lut tempCd rhCp = .ok (.ok d) ∧
      d.toInt = dewpointExact tempCd.toInt (lnRhExact lut rhCp) := by
  obtain ⟨denomT, num₁, term1, lnQ, alpha, denomQ, num₂, dew, h⟩ :=
    exists_dewpointSteps lut rhCp ht
  refine ⟨clampDew tempCd dew, h.result ht, ?_⟩
  rw [toInt_clampDew ht, h.value, dewpointExact]

end Dewpoint

end ClimateNode.Core
