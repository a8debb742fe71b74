import ClimateNode.Machine.Decimal
import ClimateNode.Machine.WrittenPrefix
import ClimateNode.Service.Logger

/-!
# What the logger writes

The writing functions of `service/logger.c`. They reach the ring through `logger_write_char` only,
so they are stated for any state and any function `put` in its place: `loggerWriteChar` for the
logger itself, and one that also keeps a record for its runs.

Each of them puts a list of characters, one after the other, and returns (`loggerWriteU32_eq` and
its companions). The characters of a number parse back to it: see the last section.
-/

set_option autoImplicit false

namespace ClimateNode.Service

open ClimateNode.Machine

section Writers

variable {σ : Type} (put : σ → UInt8 → σ)

/-- The loop of `logger_write_str`, up to the terminating zero. -/
def loggerStrLoop (s : σ) : List UInt8 → σ
  | [] => s
  | c :: rest => if c = 0 then s else loggerStrLoop (put s c) rest

/-- `logger_write_str`; `none` is a null pointer. -/
def loggerWriteStr (s : σ) (str : Option (List UInt8)) : σ :=
  match str with
  | none => s
  | some chars => loggerStrLoop put s chars

/-- The first loop of `logger_write_u32`: the digits of `x` into `tmp` from the index `n` on, the
least significant one first. -/
def loggerDigitLoop (tmp : Vector UInt8 10) (n : Nat) (x : UInt32) :
    Checked (Vector UInt8 10 × Nat) :=
  if hx : x > 0 then do
    let tmp ← writeAt tmp n (0x30 + x % 10).toUInt8
    loggerDigitLoop tmp (n + 1) (x / 10)
  else pure (tmp, n)
termination_by x.toNat
decreasing_by
  have hpos : 0 < x.toNat := UInt32.lt_iff_toNat_lt.1 hx
  rw [UInt32.toNat_div]
  exact Nat.div_lt_self hpos (by decide)

/-- The second loop of `logger_write_u32`: the entries of `tmp` below `n`, from the last one down.
-/
def loggerEmitLoop (tmp : Vector UInt8 10) (s : σ) : Nat → Checked σ
  | 0 => pure s
  | n + 1 => do
      let c ← readAt tmp n
      loggerEmitLoop tmp (put s c) n

/-- `logger_write_u32`. -/
def loggerWriteU32 (s : σ) (x : UInt32) : Checked σ :=
  if x = 0 then pure (put s 0x30)
  else do
    let r ← loggerDigitLoop (Vector.replicate 10 0) 0 x
    loggerEmitLoop put r.1 s r.2

/-- The `do` loop of `logger_write_u32_padded`, with `digits` as before the pass. -/
def loggerCountDigits (y : UInt32) (digits : UInt8) : UInt8 :=
  if hy : y / 10 ≠ 0 then loggerCountDigits (y / 10) (digits + 1) else digits + 1
termination_by y.toNat
decreasing_by
  have hpos : 0 < y.toNat := by
    by_contra hzero
    apply hy
    rw [← UInt32.toNat_inj, UInt32.toNat_div]
    have : y.toNat = 0 := by omega
    rw [this]
    rfl
  rw [UInt32.toNat_div]
  exact Nat.div_lt_self hpos (by decide)

/-- The padding loop of `logger_write_u32_padded`. -/
def loggerPadLoop (width : UInt8) (s : σ) (digits : UInt8) : σ :=
  if hlt : digits < width then loggerPadLoop width (put s 0x30) (digits + 1) else s
termination_by width.toNat - digits.toNat
decreasing_by
  have h := UInt8.lt_iff_toNat_lt.1 hlt
  have hwidth := width.toNat_lt
  rw [toNat_succ_of_lt (by omega)]
  omega

/-- `logger_write_u32_padded`. -/
def loggerWriteU32Padded (s : σ) (x : UInt32) (width : UInt8) : Checked σ :=
  loggerWriteU32 put (loggerPadLoop put width s (loggerCountDigits x 0)) x

/-- `(uint32_t)(-(x + 1)) + 1u`, the magnitude of a negative `x`. -/
def loggerMagnitude (x : Int32) : Checked UInt32 := do
  let next ← addI32 x 1
  let mag ← negI32 next
  return mag.toUInt32 + 1

/-- `logger_write_i32`. -/
def loggerWriteI32 (s : σ) (x : Int32) : Checked σ :=
  if x < 0 then do
    let s := put s 0x2D
    let mag ← loggerMagnitude x
    loggerWriteU32 put s mag
  else loggerWriteU32 put s x.toUInt32

/-- `logger_write_fixed_mag`. -/
def loggerWriteFixedMag (s : σ) (mag : UInt32) : Checked σ := do
  let integerPart := mag / 100
  let fracPart := mag % 100
  let s ← loggerWriteU32 put s integerPart
  let s := put s 0x2E
  let s := if fracPart < 10 then put s 0x30 else s
  loggerWriteU32 put s fracPart

/-- `logger_write_fixed_cd`. -/
def loggerWriteFixedCd (s : σ) (valueCd : Int32) : Checked σ :=
  if valueCd < 0 then do
    let s := put s 0x2D
    let mag ← loggerMagnitude valueCd
    loggerWriteFixedMag put s mag
  else loggerWriteFixedMag put s valueCd.toUInt32

/-- `logger_write_fixed_cp`. -/
def loggerWriteFixedCp (s : σ) (valueCp : UInt32) : Checked σ := loggerWriteFixedMag put s valueCp

/-- `logger_new_line`. -/
def loggerNewLine (s : σ) : σ := put (put s 0x0D) 0x0A

end Writers

/-! ## The characters of each writer -/

/-- The sign of `x`. -/
def signChars (x : Int32) : List UInt8 := if x < 0 then [0x2D] else []

/-- The characters of `logger_write_u32_padded`. -/
def paddedChars (x : UInt32) (width : UInt8) : List UInt8 :=
  List.replicate (width.toNat - (decimalNumeral x.toNat).length) 0x30 ++ decimalNumeral x.toNat

/-- The characters of `logger_write_fixed_mag`, for a magnitude. -/
def fixedChars (mag : Nat) : List UInt8 :=
  decimalNumeral (mag / 100) ++ [0x2E] ++ [digitChar (mag % 100 / 10), digitChar (mag % 100 % 10)]

section Characters

variable {σ : Type} (put : σ → UInt8 → σ)

/-- A string is written up to its first zero. -/
theorem loggerStrLoop_eq (s : σ) (chars : List UInt8) :
    loggerStrLoop put s chars = (chars.takeWhile (· ≠ 0)).foldl put s := by
  induction chars generalizing s with
  | nil => rfl
  | cons c rest ih =>
      by_cases hc : c = 0
      · simp [loggerStrLoop, hc]
      · simp [loggerStrLoop, hc, ih]

theorem toUInt8_digit (x : UInt32) : (0x30 + x % 10).toUInt8 = digitChar (x.toNat % 10) := by
  have hdigit : (x % 10).toNat = x.toNat % 10 := UInt32.toNat_mod x 10
  have hlt : x.toNat % 10 < 10 := Nat.mod_lt _ (by decide)
  rw [← UInt8.toNat_inj, toNat_digitChar hlt, UInt32.toNat_toUInt8, UInt32.toNat_add, hdigit]
  show (48 + x.toNat % 10) % 4294967296 % 256 = _
  omega

/-- The digits are written behind those already there, and there is room for all of them. -/
theorem loggerDigitLoop_spec (tmp : Vector UInt8 10) (n : Nat) (x : UInt32) {written : List UInt8}
    (h : Starts tmp written) (hn : written.length = n)
    (hroom : n + (Nat.digits 10 x.toNat).length ≤ 10) :
    ∃ tmp', loggerDigitLoop tmp n x = .ok (tmp', n + (Nat.digits 10 x.toNat).length) ∧
      Starts tmp' (written ++ (Nat.digits 10 x.toNat).map digitChar) := by
  induction tmp, n, x using loggerDigitLoop.induct generalizing written with
  | case1 tmp n x hx ih =>
      have hpos : 0 < x.toNat := UInt32.lt_iff_toNat_lt.1 hx
      have hdiv : (x / 10).toNat = x.toNat / 10 := UInt32.toNat_div x 10
      have hdigits : Nat.digits 10 x.toNat = x.toNat % 10 :: Nat.digits 10 (x.toNat / 10) :=
        Nat.digits_def' (by decide) hpos
      rw [hdigits, List.length_cons] at hroom
      obtain ⟨tmp₁, h₁, hs₁⟩ := writeAt_starts h hn (by omega) (0x30 + x % 10).toUInt8
      obtain ⟨tmp₂, h₂, hs₂⟩ := ih tmp₁ hs₁ (by simp [hn]) (by rw [hdiv]; omega)
      refine ⟨tmp₂, ?_, ?_⟩
      · rw [loggerDigitLoop, dif_pos hx, h₁, checked_ok_bind, h₂, hdiv, hdigits, List.length_cons]
        congr 2
        omega
      · rw [hdiv, toUInt8_digit, List.append_assoc] at hs₂
        rw [hdigits, List.map_cons]
        exact hs₂
  | case2 tmp n x hx =>
      have hzero : x.toNat = 0 := Nat.eq_zero_of_not_pos fun h => hx (UInt32.lt_iff_toNat_lt.2 h)
      refine ⟨tmp, ?_, ?_⟩
      · rw [loggerDigitLoop, dif_neg hx, hzero]
        rfl
      · rw [hzero]
        simpa using h

/-- The entries are put from the last one down. -/
theorem loggerEmitLoop_spec {tmp : Vector UInt8 10} (written : List UInt8) (s : σ)
    (h : Starts tmp written) :
    loggerEmitLoop put tmp s written.length = .ok (written.reverse.foldl put s) := by
  induction written using List.reverseRecOn generalizing s with
  | nil => rfl
  | append_singleton written c ih =>
      have hread : readAt tmp written.length = .ok c := readAt_starts h (by simp)
      rw [List.length_append, List.length_singleton, loggerEmitLoop, hread, checked_ok_bind,
        ih (put s c) h.of_append, List.reverse_append]
      rfl

/-- `logger_write_u32` puts the numeral. -/
theorem loggerWriteU32_eq (s : σ) (x : UInt32) :
    loggerWriteU32 put s x = .ok ((decimalNumeral x.toNat).foldl put s) := by
  rw [loggerWriteU32]
  split
  · next h =>
      rw [h]
      rfl
  · next h =>
      have hne : x.toNat ≠ 0 := fun h0 => h (UInt32.toNat_inj.1 h0)
      have hlen : (Nat.digits 10 x.toNat).length ≤ 10 := by
        have hlt := x.toNat_lt
        exact (Nat.digits_length_le_iff (by decide) _).2 (by omega)
      obtain ⟨tmp, htmp, hstarts⟩ := loggerDigitLoop_spec (Vector.replicate 10 0) 0 x
        (starts_nil _) rfl (by omega)
      have hemit := loggerEmitLoop_spec put _ s hstarts
      rw [List.nil_append, List.length_map] at hemit
      rw [htmp, checked_ok_bind, Nat.zero_add, hemit, decimalNumeral, if_neg hne]

/-- The `do` loop counts the characters of the numeral. -/
theorem loggerCountDigits_eq (y : UInt32) (digits : UInt8) :
    loggerCountDigits y digits = digits + UInt8.ofNat (decimalNumeral y.toNat).length := by
  have hdiv : ∀ y : UInt32, (y / 10).toNat = y.toNat / 10 := fun y => UInt32.toNat_div y 10
  have hiff : ∀ y : UInt32, y / 10 ≠ 0 ↔ 10 ≤ y.toNat := by
    intro y
    rw [ne_eq, ← UInt32.toNat_inj, hdiv]
    show ¬ y.toNat / 10 = 0 ↔ _
    omega
  induction y, digits using loggerCountDigits.induct with
  | case1 y digits hy ih =>
      rw [loggerCountDigits, dif_pos hy, ih, hdiv, decimalNumeral_of_ge ((hiff y).1 hy),
        List.length_append, List.length_singleton, UInt8.ofNat_add, UInt8.add_assoc,
        UInt8.add_comm 1]
      rfl
  | case2 y digits hy =>
      rw [loggerCountDigits, dif_neg hy, decimalNumeral_of_lt (Nat.not_le.1 (mt (hiff y).2 hy))]
      rfl

theorem loggerPadLoop_eq (width : UInt8) (s : σ) (digits : UInt8) :
    loggerPadLoop put width s digits =
      (List.replicate (width.toNat - digits.toNat) 0x30).foldl put s := by
  induction s, digits using loggerPadLoop.induct put width with
  | case1 s digits hlt ih =>
      have h := UInt8.lt_iff_toNat_lt.1 hlt
      have hwidth := width.toNat_lt
      have hcount : width.toNat - digits.toNat = width.toNat - (digits + 1).toNat + 1 := by
        rw [toNat_succ_of_lt (by omega)]
        omega
      rw [loggerPadLoop, dif_pos hlt, ih, hcount, List.replicate_succ, List.foldl_cons]
  | case2 s digits hge =>
      have h := UInt8.not_lt.1 hge
      rw [loggerPadLoop, dif_neg hge, Nat.sub_eq_zero_of_le (UInt8.le_iff_toNat_le.1 h)]
      rfl

/-- `logger_write_u32_padded` puts zeros up to the width, then the numeral. -/
theorem loggerWriteU32Padded_eq (s : σ) (x : UInt32) (width : UInt8) :
    loggerWriteU32Padded put s x width = .ok ((paddedChars x width).foldl put s) := by
  have hle : (decimalNumeral x.toNat).length ≤ 10 := by
    have hlt := x.toNat_lt
    exact length_decimalNumeral_le (by decide) (by omega)
  have hcount : (loggerCountDigits x 0).toNat = (decimalNumeral x.toNat).length := by
    rw [loggerCountDigits_eq, UInt8.zero_add, UInt8.toNat_ofNat']
    omega
  rw [loggerWriteU32Padded, loggerWriteU32_eq, loggerPadLoop_eq, hcount, paddedChars,
    List.foldl_append]

/-- The magnitude of a negative number, also of the smallest one. -/
theorem loggerMagnitude_eq {x : Int32} (hx : x < 0) :
    ∃ mag, loggerMagnitude x = .ok mag ∧ mag.toNat = x.toInt.natAbs := by
  have hneg : x.toInt < 0 := Int32.lt_iff_toInt_lt.1 hx
  have hmin := (inInt32_toInt x).1
  have hone : (1 : Int32).toInt = 1 := rfl
  obtain ⟨next, hnext, hnextv⟩ := addI32_spec (a := x) (b := 1) ⟨by omega, by omega⟩
  obtain ⟨mag, hmag, hmagv⟩ := negI32_spec (a := next) ⟨by omega, by omega⟩
  refine ⟨mag.toUInt32 + 1, ?_, ?_⟩
  · simp only [loggerMagnitude, hnext, hmag, checked_ok_bind, checked_pure]
  · have hnonneg : 0 ≤ mag.toInt := by omega
    have hcast : mag.toUInt32.toNat = mag.toInt.toNat :=
      Int32.toNat_toUInt32_of_le (Int32.le_iff_toInt_le.2 hnonneg)
    rw [UInt32.toNat_add, hcast]
    show (mag.toInt.toNat + 1) % 4294967296 = _
    omega

theorem toNat_toUInt32_of_not_neg {x : Int32} (hx : ¬ x < 0) :
    x.toUInt32.toNat = x.toInt.natAbs := by
  have hle : (0 : Int32) ≤ x := Int32.not_lt.1 hx
  have hnonneg : 0 ≤ x.toInt := Int32.le_iff_toInt_le.1 hle
  have hcast : x.toUInt32.toNat = x.toInt.toNat := Int32.toNat_toUInt32_of_le hle
  omega

/-- `logger_write_i32` puts the sign and the numeral of the magnitude. -/
theorem loggerWriteI32_eq (s : σ) (x : Int32) :
    loggerWriteI32 put s x =
      .ok ((signChars x ++ decimalNumeral x.toInt.natAbs).foldl put s) := by
  rw [loggerWriteI32, signChars]
  split
  · next hx =>
      obtain ⟨mag, hmag, hval⟩ := loggerMagnitude_eq hx
      simp only [hmag, checked_ok_bind, loggerWriteU32_eq, hval]
      rfl
  · next hx =>
      rw [loggerWriteU32_eq, toNat_toUInt32_of_not_neg hx]
      rfl

/-- The fraction has two digits. -/
theorem fraction_eq {f : Nat} (h : f < 100) :
    (if f < 10 then [0x30] else []) ++ decimalNumeral f =
      [digitChar (f / 10), digitChar (f % 10)] := by
  by_cases hf : f < 10
  · rw [if_pos hf, decimalNumeral_of_lt hf, Nat.div_eq_of_lt hf, Nat.mod_eq_of_lt hf]
    rfl
  · rw [if_neg hf, decimalNumeral_of_ge (Nat.not_lt.1 hf), decimalNumeral_of_lt (by omega)]
    rfl

/-- `logger_write_fixed_mag` puts the integer part, the point and the two digits behind it. -/
theorem loggerWriteFixedMag_eq (s : σ) (mag : UInt32) :
    loggerWriteFixedMag put s mag = .ok ((fixedChars mag.toNat).foldl put s) := by
  have hint : (mag / 100).toNat = mag.toNat / 100 := UInt32.toNat_div mag 100
  have hfrac : (mag % 100).toNat = mag.toNat % 100 := UInt32.toNat_mod mag 100
  have hlt : mag % 100 < 10 ↔ mag.toNat % 100 < 10 := by
    rw [UInt32.lt_iff_toNat_lt, hfrac]
    rfl
  rw [fixedChars, ← fraction_eq (Nat.mod_lt mag.toNat (by decide))]
  simp only [loggerWriteFixedMag, loggerWriteU32_eq, checked_ok_bind, hint, hfrac, hlt,
    List.foldl_append, List.foldl_cons, List.foldl_nil]
  split <;> rfl

/-- `logger_write_fixed_cd` puts the sign first. -/
theorem loggerWriteFixedCd_eq (s : σ) (x : Int32) :
    loggerWriteFixedCd put s x =
      .ok ((signChars x ++ fixedChars x.toInt.natAbs).foldl put s) := by
  rw [loggerWriteFixedCd, signChars]
  split
  · next hx =>
      obtain ⟨mag, hmag, hval⟩ := loggerMagnitude_eq hx
      simp only [hmag, checked_ok_bind, loggerWriteFixedMag_eq, hval]
      rfl
  · next hx =>
      rw [loggerWriteFixedMag_eq, toNat_toUInt32_of_not_neg hx]
      rfl

end Characters

/-! ## Parsing back -/

/-- The canonical numeral of `v`: a minus sign exactly for a negative number, then the magnitude
without leading zeros. -/
def ReadsAsInt (v : Int32) (cs : List UInt8) : Prop :=
  ∃ digits, cs = signChars v ++ digits ∧ IsNumeral digits ∧ decimalValue digits = v.toInt.natAbs

/-- The numeral of `u`, with zeros in front up to the width. -/
def ReadsAsPadded (u : UInt32) (width : UInt8) (cs : List UInt8) : Prop :=
  ∃ zeros digits, cs = List.replicate zeros 0x30 ++ digits ∧ IsNumeral digits ∧
    decimalValue digits = u.toNat ∧ cs.length = max width.toNat digits.length

/-- A sign, a canonical integer part, a point and two digits that make `mag` hundredths. -/
def ReadsAsFixed (sign : List UInt8) (mag : Nat) (cs : List UInt8) : Prop :=
  ∃ integer frac, cs = sign ++ integer ++ [0x2E] ++ frac ∧ IsNumeral integer ∧ frac.length = 2 ∧
    (∀ c ∈ frac, IsDigit c) ∧ decimalValue integer * 100 + decimalValue frac = mag

theorem readsAsInt_chars (v : Int32) :
    ReadsAsInt v (signChars v ++ decimalNumeral v.toInt.natAbs) :=
  ⟨_, rfl, isNumeral_decimalNumeral _, decimalValue_decimalNumeral _⟩

theorem readsAsPadded_chars (u : UInt32) (width : UInt8) :
    ReadsAsPadded u width (paddedChars u width) := by
  refine ⟨_, _, rfl, isNumeral_decimalNumeral _, decimalValue_decimalNumeral _, ?_⟩
  rw [paddedChars, List.length_append, List.length_replicate]
  omega

theorem readsAsFixed_chars (sign : List UInt8) (mag : Nat) :
    ReadsAsFixed sign mag (sign ++ fixedChars mag) := by
  have hfrac : mag % 100 < 100 := Nat.mod_lt _ (by decide)
  refine ⟨decimalNumeral (mag / 100), [digitChar (mag % 100 / 10), digitChar (mag % 100 % 10)],
    by simp [fixedChars], isNumeral_decimalNumeral _, rfl, ?_, ?_⟩
  · intro c hc
    rcases List.mem_pair.1 hc with rfl | rfl
    · exact isDigit_digitChar (by omega)
    · exact isDigit_digitChar (by omega)
  · rw [decimalValue_decimalNumeral, decimalValue_twoDigits hfrac]
    omega

end ClimateNode.Service
