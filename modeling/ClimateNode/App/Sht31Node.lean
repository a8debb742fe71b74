import ClimateNode.App.IdealSampling
import ClimateNode.Core.ControllerRuns
import ClimateNode.Driver.Sht31

/-!
# The node with an SHT31

`app_task` with `sht31_read_sample` behind its sensor port: what the node reports, compared with the
formulas of the sensor on the words that came over the bus. The driver rounds each temperature down,
and the filter truncates the mean of five of them towards zero (`sht31_report_accuracy`).
-/

set_option autoImplicit false

namespace ClimateNode.Application

open ClimateNode.Core ClimateNode.Drivers ClimateNode.Machine ClimateNode.Service

variable {D F : Type}

/-- The application and the bus of its sensor. -/
structure Sht31Sys (D F : Type) where
  bus : D
  sys : AppSys F

/-- `sample_t s = {0}`. -/
def zeroSample : Sample := ⟨0, 0, 0, .invalid⟩

/-- The controller and what it drives. -/
def Sht31Sys.ctrlSys (σ : Sht31Sys D F) : CtrlSys := ⟨σ.sys.plat, σ.sys.app.ctrl⟩

section Node

variable (lut : DewpointLut) (bus : I2cBus D)

/-- `app_task` on the sensor, which only a due call reads. -/
def sht31AppTask (σ : Sht31Sys D F) (nowMs : UInt32) : Checked (Sht31Sys D F) :=
  if appDue σ.sys.app nowMs then do
    let r ← sht31ReadSample bus σ.bus zeroSample
    let step ← appTask lut σ.sys nowMs r.1
    return ⟨r.2, step.sys⟩
  else do
    let step ← appTask lut σ.sys nowMs (.ok, zeroSample)
    return { σ with sys := step.sys }

/-- The reply that a call reads. -/
def usedReply (σ : Sht31Sys D F) (nowMs : UInt32) (_ : Sht31Sys D F) : List (Vector UInt8 6) :=
  if appDue σ.sys.app nowMs then (sht31Reply bus σ.bus).1.toList else []

/-- The sensor answers the call, if it is due, with a temperature in the range. -/
def SensorAnswers (σ : Sht31Sys D F) (nowMs : UInt32) : Prop :=
  appDue σ.sys.app nowMs = true → ((sht31Reply bus σ.bus).1.bind sht31Reading).isSome = true

instance (σ : Sht31Sys D F) (nowMs : UInt32) : Decidable (SensorAnswers bus σ nowMs) :=
  inferInstanceAs (Decidable (_ → _))

end Node

/-- The mean of the last five temperatures, by the formula of the sensor. -/
def exactMean (replies : List (Vector UInt8 6)) : ℚ :=
  ((lastEntries 5 replies).map fun buf => sht31ExactTemp (stRaw buf)).sum / 5

/-- What the controller `c` reports after the replies `replies`. -/
structure AccurateReport (lut : DewpointLut) (replies : List (Vector UInt8 6)) (c : Controller) :
    Prop where
  running : c.state = .run
  tempLow : exactMean replies - 9 / 5 ≤ c.filteredTempCd.toInt
  tempHigh : c.filteredTempCd.toInt ≤ exactMean replies + 4 / 5
  humidity : ∀ buf, replies.getLast? = some buf →
    sht31ExactHumidity (srhRaw buf) - 1 < c.humidityCp.toNat ∧
      c.humidityCp.toNat ≤ sht31ExactHumidity (srhRaw buf)
  dew : c.dewPointCd.toInt = idealDew lut c.filteredTempCd.toInt c.humidityCp.toNat

/-! ## The mean -/

section Mean

/-- The truncated mean of the rounded temperatures, beside the exact one. -/
theorem idealMean_mem_exactMean {replies : List (Vector UInt8 6)} (h : 5 ≤ replies.length) :
    exactMean replies - 9 / 5 ≤
        (idealMean (lastEntries 5 ((replies.map sht31Values).map Reading.temp)) : ℚ) ∧
      (idealMean (lastEntries 5 ((replies.map sht31Values).map Reading.temp)) : ℚ) ≤
        exactMean replies + 4 / 5 := by
  have hlen : (lastEntries 5 replies).length = 5 := by
    rw [length_lastEntries, Nat.min_eq_right h]
  have htemps : lastEntries 5 ((replies.map sht31Values).map Reading.temp) =
      (lastEntries 5 replies).map fun buf => sht31Temp (stRaw buf) := by
    simp only [lastEntries, List.length_map, List.map_map, ← List.map_drop]
    rfl
  obtain ⟨hlow, hhigh⟩ := sum_floor_mem (fun buf => sht31Temp_exact (stRaw buf))
    (lastEntries 5 replies)
  rw [htemps, idealMean, List.length_map, hlen, exactMean, show ((5 : Nat) : Int) = 5 from rfl]
  rw [hlen] at hhigh
  generalize ((lastEntries 5 replies).map fun buf => sht31ExactTemp (stRaw buf)).sum = exact at *
  generalize ((lastEntries 5 replies).map fun buf => sht31Temp (stRaw buf)).sum = rounded at *
  -- the sum loses less than five, and the quotient less than one
  obtain ⟨hquot, hquot'⟩ := mul_tdiv_mem rounded (d := 5) (by decide)
  have hquot : 5 * (rounded.tdiv 5 : ℚ) - 4 ≤ rounded := by exact_mod_cast (by omega)
  have hquot' : (rounded : ℚ) ≤ 5 * rounded.tdiv 5 + 4 := by exact_mod_cast (by omega)
  push_cast at hhigh
  constructor <;> linarith

end Mean

/-! ## A call -/

section Call

variable {lut : DewpointLut} {bus : I2cBus D} {cfg : ControllerConfig}

/-- The ideal controller takes a reply. -/
def takeReply (lut : DewpointLut) (cfg : ControllerConfig) (i : IdealController)
    (buf : Vector UInt8 6) : IdealController × List Unit :=
  ((idealUpdate (idealConfig cfg) (idealDew lut) i (some (sht31Values buf))).1, [])

theorem after_takeReply (i : IdealController) (replies : List (Vector UInt8 6)) :
    after (takeReply lut cfg) i replies =
      afterReadings (idealConfig cfg) (idealDew lut) i (replies.map sht31Values) := by
  induction replies generalizing i with
  | nil => rfl
  | cons buf replies ih =>
      rw [after_cons, ih, List.map_cons, afterReadings_cons]
      rfl

/-- The node beside the ideal controller. -/
structure NodeFollows (cfg : ControllerConfig) (σ : Sht31Sys D F) (i : IdealController) : Prop where
  cfg_eq : σ.sys.app.ctrl.cfg = cfg
  refines : Refines σ.sys.app.ctrl i

/-- A call that the sensor answers takes the reply, if it is due. -/
theorem nodeFollows_sht31AppTask (σ : Sht31Sys D F) (nowMs : UInt32) (i : IdealController)
    (h : NodeFollows cfg σ i) (hanswers : SensorAnswers bus σ nowMs) :
    ∃ σ', sht31AppTask lut bus σ nowMs = .ok σ' ∧
      NodeFollows cfg σ' (after (takeReply lut cfg) i (usedReply bus σ nowMs σ')) ∧
      ([] : List Unit) = [] ++ answers (takeReply lut cfg) i (usedReply bus σ nowMs σ') := by
  by_cases hdue : appDue σ.sys.app nowMs = true
  · obtain ⟨r, hr⟩ := Option.isSome_iff_exists.1 (hanswers hdue)
    obtain ⟨buf, hbuf, hreading⟩ := Option.bind_eq_some_iff.1 hr
    obtain ⟨res, hres, hgood, -⟩ := sht31ReadSample_spec bus σ.bus zeroSample
    obtain ⟨hok, hsample⟩ := hgood r hr
    have hport : portReading res = some (sht31Values buf) := by
      rw [portReading, if_pos hok, hsample, eq_sht31Values hreading]
    obtain ⟨plat, relayPrev, step, htask, hcfg, hrefines, -, -⟩ :=
      appTask_refines lut res hdue h.refines
    rw [hport, h.cfg_eq] at hrefines
    simp only [sht31AppTask, usedReply, if_pos hdue, hres, htask, hbuf, checked_ok_bind,
      checked_pure]
    exact ⟨_, rfl, ⟨hcfg.trans h.cfg_eq, hrefines⟩, rfl⟩
  · -- the sensor is not read, and nothing happens
    have htask := appTask_notDue lut (.ok, zeroSample) (Bool.eq_false_iff.2 hdue)
    simp only [sht31AppTask, usedReply, if_neg hdue, htask, checked_ok_bind, checked_pure]
    exact ⟨_, rfl, h, rfl⟩

end Call

/-! ## Runs -/

section Runs

variable {lut : DewpointLut} {bus : I2cBus D}

/-- A settled controller reports accurately. -/
theorem accurateReport_of_settled {c : Controller} {i : IdealController}
    {replies : List (Vector UInt8 6)} (h : Refines c i)
    (hsettled : Settled (idealDew lut) (replies.map sht31Values) i) :
    AccurateReport lut replies c := by
  have hlong := hsettled.long
  rw [List.length_map] at hlong
  obtain ⟨hlow, hhigh⟩ := idealMean_mem_exactMean hlong
  rw [← hsettled.temp, h.temp] at hlow hhigh
  refine ⟨h.run_iff.2 hsettled.running, hlow, hhigh, fun buf hbuf => ?_, ?_⟩
  · have hlast := hsettled.humidity
    rw [List.getLast?_map, hbuf] at hlast
    have hvalue : c.humidityCp.toNat = sht31Humidity (srhRaw buf) := h.humidity.symm.trans hlast
    obtain ⟨hdown, hup⟩ := sht31Humidity_exact (srhRaw buf)
    rw [hvalue]
    exact ⟨by linarith, hdown⟩
  · rw [← h.dew, hsettled.dew, h.temp, h.humidity]

/-- From every reachable state of the controller outside `SAFE`, whatever the bus has done before:
once the sensor has answered in four more due calls in a row than the recovery threshold, with
temperatures in the range, the controller runs, its temperature is within 0.018 °C below and
0.008 °C above the mean of the last five temperatures of the sensor, and its humidity is less than
0.01 % below the last one. -/
theorem sht31_report_accuracy (lut : DewpointLut) (bus : I2cBus D) (σ : Sht31Sys D F)
    (hreach : CtrlReachable lut σ.ctrlSys) (hsafe : σ.sys.app.ctrl.state ≠ .safe)
    (calls : List UInt32)
    (hanswers : StepsMeet (sht31AppTask lut bus) (SensorAnswers bus) σ calls)
    (hlong : σ.sys.app.ctrl.cfg.recoveryThreshold.toNat + 4 ≤
      (observed (sht31AppTask lut bus) (usedReply bus) σ calls).length) :
    ∃ σ', run (sht31AppTask lut bus) σ calls = .ok σ' ∧
      AccurateReport lut (observed (sht31AppTask lut bus) (usedReply bus) σ calls)
        σ'.sys.app.ctrl := by
  obtain ⟨i, hrefines⟩ := hreach.refines
  have hi : Refines σ.sys.app.ctrl i := hrefines
  obtain ⟨σ', hrun, hfollows, -⟩ := run_answers (f := fun _ => []) (C := SensorAnswers bus)
    (R := NodeFollows σ.sys.app.ctrl.cfg)
    (fun σ nowMs i h hC => nodeFollows_sht31AppTask σ nowMs i h hC) ⟨rfl, hi⟩ hanswers
  refine ⟨σ', hrun, accurateReport_of_settled hfollows.refines ?_⟩
  rw [after_takeReply]
  apply settled_afterReadings (idealDew lut) hi.idealInv (hi.unlocked hsafe)
  -- a recovery ignores fewer replies than its threshold, and five more settle the controller
  have hignored : readingsIgnored (idealConfig σ.sys.app.ctrl.cfg) i ≤
      σ.sys.app.ctrl.cfg.recoveryThreshold.toNat - 1 := readingsIgnored_le _ i
  have hpos := hi.sound.recoveryThreshold
  rw [List.length_map]
  omega

/-- A sensor that always says 21.5 °C and 45 %. -/
def steadyBus : I2cBus Unit where
  memWrite _ _ _ d := (.ok, d)
  memRead _ _ _ d := ((.ok, Vector.ofFn fun i =>
    (sht31Encode ⟨2150, 4500⟩ 0 0).toList.getD i 0), d)

/-- A node after a power-on, with the default configuration. -/
def steadyStart : Sht31Sys Unit Unit :=
  let σ := CtrlBoot.start ⟨[], 0⟩ (.initExtended 0 none .powerOn)
  ⟨(), ⟨σ.plat, (), ⟨σ.ctrl, storageLoadDefaults, 0, false, 0, 0⟩⟩⟩

/-- After seven samples. -/
theorem sht31_report_accuracy_steady :
    ∃ σ', run (sht31AppTask dewpointLnRhQ10 steadyBus) steadyStart
        [0, 1000, 2000, 3000, 4000, 5000, 6000] = .ok σ' ∧
      AccurateReport dewpointLnRhQ10
        (observed (sht31AppTask dewpointLnRhQ10 steadyBus) (usedReply steadyBus) steadyStart
          [0, 1000, 2000, 3000, 4000, 5000, 6000]) σ'.sys.app.ctrl := by
  have hsays : ((sht31Reply steadyBus ()).1.bind sht31Reading).isSome = true := by
    decide +kernel
  exact sht31_report_accuracy dewpointLnRhQ10 steadyBus steadyStart
    ⟨⟨[], 0⟩, .initExtended 0 none .powerOn, [], rfl⟩ (by decide) _
    (stepsMeet_of_forall_mem fun _ _ _ _ => hsays) (by decide +kernel)

end Runs

end ClimateNode.Application
