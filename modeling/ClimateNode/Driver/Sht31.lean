import ClimateNode.Core.ControllerRefinement
import ClimateNode.Machine.Scale

/-!
# The SHT31 driver

`driver/sensor_sht31.c`: a measurement command and a read of six bytes over the bus of `bsp/i2c.h`,
which is a parameter with a state of its own. The bytes are two 16-bit words with a checksum after
each, and the checksums are not looked at. The conversion is exact (`sht31ReadSample_spec`): the
words that read as one temperature and one humidity are two intervals (`sht31_reading_iff`), and
every temperature and humidity of the range has a reply (`sht31Reading_encode`).
-/

set_option autoImplicit false

namespace ClimateNode.Drivers

open ClimateNode.Core ClimateNode.Machine

/-- The transfers of `bsp/i2c.h`. A read that reports an error may leave anything in the buffer. -/
structure I2cBus (D : Type) where
  memWrite (devAddr regAddr : UInt8) (data : List UInt8) (d : D) : Err × D
  memRead (devAddr regAddr : UInt8) (len : Nat) (d : D) : (Err × Vector UInt8 len) × D

/-- `SHT31_ADDR_DEFAULT`. -/
def sht31AddrDefault : UInt8 := 0x44

/-- `SHT31_CMD_MEAS_HIGH`. -/
def sht31CmdMeasHigh : UInt8 := 0x2C

/-- `SHT31_CMD_MEAS_LOW`. -/
def sht31CmdMeasLow : UInt8 := 0x06

/-- `st_raw`. -/
def stRaw (buf : Vector UInt8 6) : UInt16 := (buf[0].toUInt16 <<< 8) ||| buf[1].toUInt16

/-- `srh_raw`. -/
def srhRaw (buf : Vector UInt8 6) : UInt16 := (buf[3].toUInt16 <<< 8) ||| buf[4].toUInt16

/-- `sht31_read_sample` after its transfers. -/
def sht31Convert (buf : Vector UInt8 6) (out : Sample) : Checked (Err × Sample) := do
  let product ← mulI32 17500 (stRaw buf).toUInt32.toInt32
  let quotient ← divI32 product 65535
  let tempCdCalc ← addI32 (-4500) quotient
  let rhCpCalc := 10000 * (srhRaw buf).toUInt32 / 65535
  if tempCdCalc < tempCdMin ∨ tempCdCalc > tempCdMax then
    return (.outOfRange, { out with quality := .fault })
  else if rhCpCalc > rhCpMax then return (.outOfRange, { out with quality := .fault })
  else return (.ok, ⟨tempCdCalc, rhCpCalc, 0, .valid⟩)

section Read

variable {D : Type} (bus : I2cBus D)

/-- `sht31_read_sample`. -/
def sht31ReadSample (d : D) (out : Sample) : Checked ((Err × Sample) × D) :=
  let w := bus.memWrite sht31AddrDefault 0 [sht31CmdMeasHigh, sht31CmdMeasLow] d
  if w.1 ≠ .ok then .ok ((w.1, { out with quality := .fault }), w.2)
  else
    let r := bus.memRead sht31AddrDefault 0 6 w.2
    if r.1.1 ≠ .ok then .ok ((r.1.1, { out with quality := .fault }), r.2)
    else do
      let res ← sht31Convert r.1.2 out
      return (res, r.2)

/-- What the sensor replies: nothing when one of the transfers fails. -/
def sht31Reply (d : D) : Option (Vector UInt8 6) × D :=
  let w := bus.memWrite sht31AddrDefault 0 [sht31CmdMeasHigh, sht31CmdMeasLow] d
  if w.1 ≠ .ok then (none, w.2)
  else
    let r := bus.memRead sht31AddrDefault 0 6 w.2
    if r.1.1 ≠ .ok then (none, r.2) else (some r.1.2, r.2)

end Read

/-- The temperature of a word, in 0.01 °C: 175 °C over all words from -45 °C on. -/
def sht31Temp (st : UInt16) : Int := -4500 + scaled 17500 65535 st.toNat

/-- The humidity of a word, in 0.01 %. -/
def sht31Humidity (srh : UInt16) : Nat := scaled 10000 65535 srh.toNat

/-- The values of a reply. -/
def sht31Values (buf : Vector UInt8 6) : Reading :=
  ⟨sht31Temp (stRaw buf), sht31Humidity (srhRaw buf)⟩

/-- What a reply says, when its temperature is in the range. -/
def sht31Reading (buf : Vector UInt8 6) : Option Reading :=
  if -4000 ≤ (sht31Values buf).temp ∧ (sht31Values buf).temp ≤ 8500 then some (sht31Values buf)
  else none

/-- The reply with the first words that have the values of `r`, whatever the checksums. -/
def sht31Encode (r : Reading) (crc crc' : UInt8) : Vector UInt8 6 :=
  let st := UInt16.ofNat (firstScaled 17500 65535 (r.temp + 4500).toNat)
  let srh := UInt16.ofNat (firstScaled 10000 65535 r.humidity)
  #v[(st >>> 8).toUInt8, (st &&& 0xFF).toUInt8, crc, (srh >>> 8).toUInt8, (srh &&& 0xFF).toUInt8,
    crc']

/-! ## The conversion -/

section Conversion

theorem sht31Humidity_le (srh : UInt16) : sht31Humidity srh ≤ 10000 := by
  have hle : srh.toNat ≤ 65535 := Nat.le_of_lt_succ (UInt16.toNat_lt srh)
  calc sht31Humidity srh ≤ scaled 10000 65535 65535 := scaled_mono hle
    _ = 10000 := scaled_self (by decide)

theorem sht31Temp_mem (st : UInt16) : -4500 ≤ sht31Temp st ∧ sht31Temp st ≤ 13000 := by
  have hle : st.toNat ≤ 65535 := Nat.le_of_lt_succ (UInt16.toNat_lt st)
  have hscaled : scaled 17500 65535 st.toNat ≤ 17500 :=
    calc scaled 17500 65535 st.toNat ≤ scaled 17500 65535 65535 := scaled_mono hle
      _ = 17500 := scaled_self (by decide)
  rw [sht31Temp]
  omega

/-- The 32-bit humidity is exact. -/
theorem toNat_rhCpCalc (srh : UInt16) :
    (10000 * srh.toUInt32 / 65535 : UInt32).toNat = sht31Humidity srh := by
  have hlt := UInt16.toNat_lt srh
  rw [UInt32.toNat_div, UInt32.toNat_mul, UInt16.toNat_toUInt32, Nat.mod_eq_of_lt]
  · rfl
  · show 10000 * srh.toNat < 4294967296
    omega

/-- The signed steps of the temperature do not overflow. -/
theorem tempCdCalc_spec (st : UInt16) :
    ∃ product quotient tempCdCalc, mulI32 17500 st.toUInt32.toInt32 = .ok product ∧
      divI32 product 65535 = .ok quotient ∧ addI32 (-4500) quotient = .ok tempCdCalc ∧
      tempCdCalc.toInt = sht31Temp st := by
  have hlt := UInt16.toNat_lt st
  have hcast : st.toUInt32.toInt32.toInt = st.toNat := by
    rw [toInt_toInt32_of_lt]
    · rw [UInt16.toNat_toUInt32]
    · rw [UInt16.toNat_toUInt32]
      omega
  have hmem := sht31Temp_mem st
  obtain ⟨product, hproduct, hpv⟩ := mulI32_spec (a := 17500) (b := st.toUInt32.toInt32) (by
    rw [hcast, show (17500 : Int32).toInt = 17500 from rfl]
    exact ⟨by omega, by omega⟩)
  rw [hcast, show (17500 : Int32).toInt = 17500 from rfl] at hpv
  obtain ⟨quotient, hquotient, hqv⟩ := divI32_spec (a := product) (b := 65535) (by decide)
  -- a product that is not negative is divided as natural numbers are
  have hexact : quotient.toInt = (scaled 17500 65535 st.toNat : Nat) := by
    rw [hqv, hpv, show (65535 : Int32).toInt = 65535 from rfl,
      Int.tdiv_eq_ediv_of_nonneg (by omega), scaled]
    exact_mod_cast rfl
  obtain ⟨tempCd, htempCd, htv⟩ := addI32_spec (a := -4500) (b := quotient) (by
    rw [hexact, show (-4500 : Int32).toInt = -4500 from rfl]
    rw [sht31Temp] at hmem
    exact ⟨by omega, by omega⟩)
  refine ⟨product, quotient, tempCd, hproduct, hquotient, htempCd, ?_⟩
  rw [htv, hexact, sht31Temp]
  rfl

/-- A reply in the range is a valid sample of its reading, and any other only marks the sample. -/
theorem sht31Convert_spec (buf : Vector UInt8 6) (out : Sample) :
    ∃ res, sht31Convert buf out = .ok res ∧
      (∀ r, sht31Reading buf = some r → res.1 = .ok ∧ idealReading res.2 = some r) ∧
      (sht31Reading buf = none → res = (.outOfRange, { out with quality := .fault })) := by
  obtain ⟨product, quotient, tempCdCalc, hproduct, hquotient, htempCd, htv⟩ :=
    tempCdCalc_spec (stRaw buf)
  have hrv := toNat_rhCpCalc (srhRaw buf)
  have hrange : (tempCdCalc < tempCdMin ∨ tempCdCalc > tempCdMax) ↔
      ¬ (-4000 ≤ (sht31Values buf).temp ∧ (sht31Values buf).temp ≤ 8500) := by
    rw [gt_iff_lt, Int32.lt_iff_toInt_lt, Int32.lt_iff_toInt_lt, toInt_tempCdMin, toInt_tempCdMax,
      htv, ← Int.not_le, ← Int.not_le]
    exact not_and_or.symm
  -- no word has a humidity above the maximum
  have hdry : ¬ (10000 * (srhRaw buf).toUInt32 / 65535 : UInt32) > rhCpMax := by
    rw [gt_iff_lt, UInt32.lt_iff_toNat_lt, hrv, toNat_rhCpMax]
    exact Nat.not_lt.2 (sht31Humidity_le _)
  simp only [sht31Convert, hproduct, hquotient, htempCd, checked_ok_bind, checked_pure,
    if_neg hdry]
  by_cases hmem : -4000 ≤ (sht31Values buf).temp ∧ (sht31Values buf).temp ≤ 8500
  · have hreading : sht31Reading buf = some (sht31Values buf) := if_pos hmem
    rw [if_neg fun hbad => hrange.1 hbad hmem, hreading]
    refine ⟨_, rfl, fun r hr => ⟨rfl, ?_⟩, by rintro ⟨⟩⟩
    cases hr
    rw [idealReading_of_valid, htv, hrv]
    · rfl
    · rw [sampleIsValid_iff]
      refine ⟨rfl, ?_, ?_⟩
      · rw [InSensorRange, htv]
        exact hmem
      · rw [hrv]
        exact sht31Humidity_le _
  · have hreading : sht31Reading buf = none := if_neg hmem
    rw [if_pos (hrange.2 hmem), hreading]
    exact ⟨_, rfl, by rintro r ⟨⟩, fun _ => rfl⟩

end Conversion

/-! ## The formulas of the sensor -/

section Exact

/-- The temperature of a word, in 0.01 °C. -/
def sht31ExactTemp (st : UInt16) : ℚ := 100 * (-45 + 175 * (st.toNat / 65535))

/-- The humidity of a word, in 0.01 %. -/
def sht31ExactHumidity (srh : UInt16) : ℚ := 100 * (100 * (srh.toNat / 65535))

/-- The conversion rounds down. -/
theorem sht31Temp_exact (st : UInt16) :
    (sht31Temp st : ℚ) ≤ sht31ExactTemp st ∧ sht31ExactTemp st < sht31Temp st + 1 := by
  obtain ⟨hlow, hhigh⟩ := scaled_exact 17500 (show 0 < 65535 by decide) st.toNat
  rw [sht31Temp, sht31ExactTemp]
  push_cast at hlow hhigh ⊢
  constructor <;> linarith

theorem sht31Humidity_exact (srh : UInt16) :
    (sht31Humidity srh : ℚ) ≤ sht31ExactHumidity srh ∧
      sht31ExactHumidity srh < sht31Humidity srh + 1 := by
  obtain ⟨hlow, hhigh⟩ := scaled_exact 10000 (show 0 < 65535 by decide) srh.toNat
  rw [sht31Humidity, sht31ExactHumidity]
  push_cast at hlow hhigh ⊢
  constructor <;> linarith

end Exact

/-! ## A read -/

section Read

variable {D : Type} (bus : I2cBus D)

/-- The bus is left as after the transfers, and the sample is that of the reply, or marked. -/
theorem sht31ReadSample_spec (d : D) (out : Sample) :
    ∃ res, sht31ReadSample bus d out = .ok (res, (sht31Reply bus d).2) ∧
      (∀ r, (sht31Reply bus d).1.bind sht31Reading = some r →
        res.1 = .ok ∧ idealReading res.2 = some r) ∧
      ((sht31Reply bus d).1.bind sht31Reading = none →
        res.1 ≠ .ok ∧ res.2 = { out with quality := .fault }) := by
  by_cases hwrite :
      (bus.memWrite sht31AddrDefault 0 [sht31CmdMeasHigh, sht31CmdMeasLow] d).1 = .ok
  · by_cases hread : (bus.memRead sht31AddrDefault 0 6
        (bus.memWrite sht31AddrDefault 0 [sht31CmdMeasHigh, sht31CmdMeasLow] d).2).1.1 = .ok
    · obtain ⟨res, hres, hgood, hbad⟩ := sht31Convert_spec (bus.memRead sht31AddrDefault 0 6
        (bus.memWrite sht31AddrDefault 0 [sht31CmdMeasHigh, sht31CmdMeasLow] d).2).1.2 out
      simp only [sht31ReadSample, sht31Reply, if_neg (not_not_intro hwrite),
        if_neg (not_not_intro hread), hres, checked_ok_bind, checked_pure, Option.bind_some]
      refine ⟨res, rfl, hgood, fun hnone => ?_⟩
      rw [hbad hnone]
      exact ⟨by rintro ⟨⟩, rfl⟩
    · simp only [sht31ReadSample, sht31Reply, if_neg (not_not_intro hwrite), if_pos hread,
        Option.bind_none]
      exact ⟨_, rfl, by rintro r ⟨⟩, fun _ => ⟨hread, rfl⟩⟩
  · simp only [sht31ReadSample, sht31Reply, if_pos hwrite, Option.bind_none]
    exact ⟨_, rfl, by rintro r ⟨⟩, fun _ => ⟨hwrite, rfl⟩⟩

theorem eq_sht31Values {buf : Vector UInt8 6} {r : Reading} (h : sht31Reading buf = some r) :
    r = sht31Values buf := by
  rw [sht31Reading] at h
  split at h
  · exact (Option.some.inj h).symm
  · cases h

/-- The words with the values of `r` are two intervals. -/
theorem sht31Reading_eq_some_iff (buf : Vector UInt8 6) (r : Reading) :
    sht31Reading buf = some r ↔
      -4000 ≤ r.temp ∧ r.temp ≤ 8500 ∧
        firstScaled 17500 65535 (r.temp + 4500).toNat ≤ (stRaw buf).toNat ∧
        (stRaw buf).toNat < firstScaled 17500 65535 (r.temp + 4501).toNat ∧
        firstScaled 10000 65535 r.humidity ≤ (srhRaw buf).toNat ∧
        (srhRaw buf).toNat < firstScaled 10000 65535 (r.humidity + 1) := by
  have htemp : -4000 ≤ r.temp →
      (sht31Temp (stRaw buf) = r.temp ↔
        firstScaled 17500 65535 (r.temp + 4500).toNat ≤ (stRaw buf).toNat ∧
        (stRaw buf).toNat < firstScaled 17500 65535 (r.temp + 4501).toNat) := by
    intro hlow
    have hnext : (r.temp + 4501).toNat = (r.temp + 4500).toNat + 1 := by omega
    rw [hnext, ← scaled_eq_iff (by decide) (by decide), sht31Temp]
    omega
  have hhumidity := scaled_eq_iff (show 0 < 10000 by decide) (show 0 < 65535 by decide) r.humidity
    (srhRaw buf).toNat
  obtain ⟨temp, humidity⟩ := r
  rw [sht31Reading, sht31Values]
  constructor
  · intro h
    split at h
    next hmem =>
      obtain ⟨rfl, rfl⟩ := Reading.mk.inj (Option.some.inj h)
      obtain ⟨hlow, hhigh⟩ := (htemp hmem.1).1 rfl
      obtain ⟨hlow', hhigh'⟩ := hhumidity.1 rfl
      exact ⟨hmem.1, hmem.2, hlow, hhigh, hlow', hhigh'⟩
    · cases h
  · rintro ⟨hlow, hhigh, hst, hst', hsrh, hsrh'⟩
    rw [(htemp hlow).2 ⟨hst, hst'⟩, if_pos ⟨hlow, hhigh⟩, sht31Humidity,
      hhumidity.2 ⟨hsrh, hsrh'⟩]

/-- Every reading in the range has a reply. -/
theorem sht31Reading_encode {r : Reading} (hlow : -4000 ≤ r.temp) (hhigh : r.temp ≤ 8500)
    (hhumidity : r.humidity ≤ 10000) (crc crc' : UInt8) :
    sht31Reading (sht31Encode r crc crc') = some r := by
  -- no word has more than 16 bits: the largest one reads as the end of the scale
  have hst : firstScaled 17500 65535 (r.temp + 4500).toNat ≤ 65535 := by
    rw [← le_scaled_iff (by decide) (by decide), scaled_self (by decide)]
    omega
  have hsrh : firstScaled 10000 65535 r.humidity ≤ 65535 := by
    rw [← le_scaled_iff (by decide) (by decide), scaled_self (by decide)]
    exact hhumidity
  have hvalues : sht31Values (sht31Encode r crc crc') = r := by
    obtain ⟨temp, humidity⟩ := r
    have hstRaw : stRaw (sht31Encode ⟨temp, humidity⟩ crc crc') =
        UInt16.ofNat (firstScaled 17500 65535 (temp + 4500).toNat) := joinBytes_split _
    have hsrhRaw : srhRaw (sht31Encode ⟨temp, humidity⟩ crc crc') =
        UInt16.ofNat (firstScaled 10000 65535 humidity) := joinBytes_split _
    rw [sht31Values, hstRaw, hsrhRaw, sht31Temp, sht31Humidity,
      UInt16.toNat_ofNat_of_lt' (Nat.lt_succ_of_le hst),
      UInt16.toNat_ofNat_of_lt' (Nat.lt_succ_of_le hsrh),
      scaled_firstScaled (by decide) (by decide), scaled_firstScaled (by decide) (by decide)]
    have hback : -4500 + ((temp + 4500).toNat : Int) = temp := by
      dsimp only at hlow
      omega
    rw [hback]
  rw [sht31Reading, hvalues, if_pos ⟨hlow, hhigh⟩]

/-- On every bus, in every state of it, a read returns, and it gives the reading `r` exactly when
both transfers succeed and the two words are from the intervals of `r`. A read that gives none marks
the sample and changes nothing else in it. -/
theorem sht31_reading_iff (d : D) (out : Sample) :
    ∃ res, sht31ReadSample bus d out = .ok (res, (sht31Reply bus d).2) ∧
      (∀ r : Reading, res.1 = .ok ∧ idealReading res.2 = some r ↔
        ∃ buf, (sht31Reply bus d).1 = some buf ∧ -4000 ≤ r.temp ∧ r.temp ≤ 8500 ∧
          firstScaled 17500 65535 (r.temp + 4500).toNat ≤ (stRaw buf).toNat ∧
          (stRaw buf).toNat < firstScaled 17500 65535 (r.temp + 4501).toNat ∧
          firstScaled 10000 65535 r.humidity ≤ (srhRaw buf).toNat ∧
          (srhRaw buf).toNat < firstScaled 10000 65535 (r.humidity + 1)) ∧
      (res.1 ≠ .ok → res.2 = { out with quality := .fault }) := by
  obtain ⟨res, hres, hgood, hbad⟩ := sht31ReadSample_spec bus d out
  refine ⟨res, hres, fun r => ?_, fun hne => ?_⟩
  · simp only [← sht31Reading_eq_some_iff]
    rw [← Option.bind_eq_some_iff]
    refine ⟨fun hr => ?_, hgood r⟩
    cases hreading : (sht31Reply bus d).1.bind sht31Reading with
    | none => exact absurd hr.1 (hbad hreading).1
    | some r' => rw [← (hgood r' hreading).2, hr.2]
  · cases hreading : (sht31Reply bus d).1.bind sht31Reading with
    | none => exact (hbad hreading).2
    | some r' => exact absurd (hgood r' hreading).1 hne

end Read

end ClimateNode.Drivers
