import ClimateNode.Core.ControllerInvariant
import ClimateNode.Machine.SlidingWindow

/-!
# Fault debounce and recovery

The controller counts invalid and valid samples in two 8-bit streaks. `DebounceHolds` relates them
to the whole sample history: outside `SENSOR_FAULT` the error streak is the number of invalid
samples at the end of the history, and stays below the fault threshold; inside it the recovery
streak is the number of valid samples at the end, and stays below the recovery threshold. The error
streak does wrap inside `SENSOR_FAULT`, where the relation says nothing about it.
-/

set_option autoImplicit false

namespace ClimateNode.Core

open ClimateNode.Machine

/-- The invalid samples at the end of a history, without a gap. -/
def invalidStreak (h : List Sample) : Nat := streak (fun s => !sampleIsValid s) h

/-- The valid samples at the end of a history, without a gap. -/
def validStreak (h : List Sample) : Nat := streak sampleIsValid h

/-- The effective fault threshold of a configuration argument. -/
def faultSamples (cfg : Option ControllerConfig) : Nat :=
  max 1 (cfg.getD controllerDefaults).faultThreshold.toNat

/-- The effective recovery threshold of a configuration argument. -/
def recoverySamples (cfg : Option ControllerConfig) : Nat :=
  max 1 (cfg.getD controllerDefaults).recoveryThreshold.toNat

/-- The floor of one under a threshold, as `ctrl_init` applies it. -/
theorem toNat_thresholdFloor (x : UInt8) : (if x = 0 then 1 else x).toNat = max 1 x.toNat := by
  by_cases h : x = 0
  · rw [if_pos h, h]
    rfl
  · have hpos : x.toNat ≠ 0 := fun h0 => h (UInt8.toNat_inj.1 h0)
    rw [if_neg h]
    omega

/-- The updates of a controller, one per sample. -/
def sampleStep (lut : DewpointLut) (σ : CtrlSys) (s : Sample) : Checked CtrlSys :=
  ctrlStep lut σ (.update s)

theorem sampleStep_of_update {lut : DewpointLut} {σ : CtrlSys} {s : Sample} {r : CtrlStep}
    (hr : ctrlUpdate lut σ.plat σ.ctrl s = .ok r) : sampleStep lut σ s = .ok ⟨r.plat, r.ctrl⟩ := by
  simp only [sampleStep, ctrlStep, hr, checked_ok_bind, checked_pure]

/-- The controller `c` after the history `h` from `ctrl_init` with `cfg`. -/
structure DebounceHolds (cfg : Option ControllerConfig) (h : List Sample) (c : Controller) :
    Prop where
  inv : CtrlInv c
  fault_eq : c.cfg.faultThreshold.toNat = faultSamples cfg
  recovery_eq : c.cfg.recoveryThreshold.toNat = recoverySamples cfg
  safe_eq : c.cfg.relaySafeState = (cfg.getD controllerDefaults).relaySafeState
  unlocked : ¬ (c.state = .safe ∨ c.powerIsDying = true)
  errorStreak : c.state ≠ .sensorFault →
    c.sensorErrorStreak.toNat = invalidStreak h ∧ invalidStreak h < faultSamples cfg
  okStreak : c.state = .sensorFault →
    c.sensorOkStreak.toNat = validStreak h ∧ validStreak h < recoverySamples cfg

theorem debounceHolds_ctrlInit (cfg : Option ControllerConfig) :
    DebounceHolds cfg [] (ctrlInit cfg) where
  inv := ctrlInv_init cfg
  fault_eq := by
    rw [cfg_ctrlInit, faultThreshold_ctrlEffectiveConfig, toNat_thresholdFloor, faultSamples]
  recovery_eq := by
    rw [cfg_ctrlInit, recoveryThreshold_ctrlEffectiveConfig, toNat_thresholdFloor, recoverySamples]
  safe_eq := by rw [cfg_ctrlInit, relaySafeState_ctrlEffectiveConfig]
  unlocked := by simp [ctrlInit]
  errorStreak := fun _ => ⟨rfl, Nat.le_max_left 1 _⟩
  okStreak := nofun

/-- What one update does to the membership in `SENSOR_FAULT`, after the history `h`. -/
structure DebounceStep (cfg : Option ControllerConfig) (h : List Sample) (s : Sample)
    (c c' : Controller) : Prop where
  enters : c.state ≠ .sensorFault →
    (c'.state = .sensorFault ↔ invalidStreak (h ++ [s]) = faultSamples cfg)
  leaves : c.state = .sensorFault →
    (c'.state ≠ .sensorFault ↔ validStreak (h ++ [s]) = recoverySamples cfg)
  leavesTo : c.state = .sensorFault → c'.state ≠ .sensorFault →
    c'.state = .warmup ∨ c'.state = .run

section Exits

variable {lut : DewpointLut} {p : Platform} {cfg : Option ControllerConfig} {h : List Sample}
  {c : Controller} {w : List TempCd} {s : Sample} {r : CtrlStep}

theorem invalidStreak_snoc_of_invalid (hs : sampleIsValid s = false) :
    invalidStreak (h ++ [s]) = invalidStreak h + 1 :=
  streak_snoc_of_true (by simp [hs]) h

theorem invalidStreak_snoc_of_valid (hs : sampleIsValid s = true) :
    invalidStreak (h ++ [s]) = 0 :=
  streak_snoc_of_false (by simp [hs]) h

theorem validStreak_snoc_of_valid (hs : sampleIsValid s = true) :
    validStreak (h ++ [s]) = validStreak h + 1 := streak_snoc_of_true hs h

theorem validStreak_snoc_of_invalid (hs : sampleIsValid s = false) :
    validStreak (h ++ [s]) = 0 := streak_snoc_of_false hs h

theorem faultSamples_pos (cfg : Option ControllerConfig) : 0 < faultSamples cfg :=
  Nat.le_max_left 1 _

theorem recoverySamples_pos (cfg : Option ControllerConfig) : 0 < recoverySamples cfg :=
  Nat.le_max_left 1 _

/-- Outside `SENSOR_FAULT` the error streak has not wrapped. -/
theorem DebounceHolds.errorStreak_succ (hd : DebounceHolds cfg h c)
    (hstate : c.state ≠ .sensorFault) :
    (c.sensorErrorStreak + 1).toNat = invalidStreak h + 1 := by
  obtain ⟨heq, hlt⟩ := hd.errorStreak hstate
  have hF := c.cfg.faultThreshold.toNat_lt
  rw [hd.fault_eq] at hF
  rw [toNat_succ_of_lt (by omega), heq]

/-- Inside `SENSOR_FAULT` the recovery streak has not wrapped. -/
theorem DebounceHolds.okStreak_succ (hd : DebounceHolds cfg h c)
    (hstate : c.state = .sensorFault) : (c.sensorOkStreak + 1).toNat = validStreak h + 1 := by
  obtain ⟨heq, hlt⟩ := hd.okStreak hstate
  have hR := c.cfg.recoveryThreshold.toNat_lt
  rw [hd.recovery_eq] at hR
  rw [toNat_succ_of_lt (by omega), heq]

/-- An invalid sample extends the error streak and ends the recovery streak, and the controller is
in `SENSOR_FAULT` when it was before or the threshold is reached. -/
theorem DebounceHolds.invalid (hd : DebounceHolds cfg h c) (hs : sampleIsValid s = false)
    {c' : Controller} (hinv : CtrlInv c') (hcfg : c'.cfg = c.cfg)
    (hunlocked : ¬ (c'.state = .safe ∨ c'.powerIsDying = true))
    (herror : c'.sensorErrorStreak = c.sensorErrorStreak + 1) (hok : c'.sensorOkStreak = 0)
    (hfault : c'.state = .sensorFault ↔
      c.state = .sensorFault ∨ c.cfg.faultThreshold ≤ c.sensorErrorStreak + 1) :
    DebounceHolds cfg (h ++ [s]) c' ∧ DebounceStep cfg h s c c' := by
  have hR := recoverySamples_pos cfg
  have hinvalid := invalidStreak_snoc_of_invalid (h := h) hs
  have hvalid := validStreak_snoc_of_invalid (h := h) hs
  rw [UInt8.le_iff_toNat_le, hd.fault_eq] at hfault
  refine ⟨⟨hinv, by rw [hcfg, hd.fault_eq], by rw [hcfg, hd.recovery_eq],
    by rw [hcfg, hd.safe_eq], hunlocked, ?_, ?_⟩, ⟨?_, ?_, ?_⟩⟩
  · intro hne
    obtain ⟨hstate, hlt⟩ := not_or.1 fun hor => hne (hfault.2 hor)
    rw [hd.errorStreak_succ hstate] at hlt
    rw [herror, hinvalid, hd.errorStreak_succ hstate]
    exact ⟨rfl, Nat.lt_of_not_le hlt⟩
  · intro _
    rw [hok, hvalid]
    exact ⟨rfl, hR⟩
  · -- the streak was below the threshold before the sample
    intro hstate
    have hlt := (hd.errorStreak hstate).2
    rw [hfault, or_iff_right hstate, hd.errorStreak_succ hstate, hinvalid]
    omega
  · intro hstate
    rw [hvalid]
    exact iff_of_false (fun hne => hne (hfault.2 (Or.inl hstate))) (Nat.ne_of_lt hR)
  · exact fun hstate hne => absurd (hfault.2 (Or.inl hstate)) hne

/-- A valid sample ends the error streak. It leaves the controller in `SENSOR_FAULT`, with a longer
recovery streak, when it was there before and the threshold is not reached. -/
theorem DebounceHolds.valid (hd : DebounceHolds cfg h c) (hs : sampleIsValid s = true)
    {c' : Controller} (hinv : CtrlInv c') (hcfg : c'.cfg = c.cfg)
    (hunlocked : ¬ (c'.state = .safe ∨ c'.powerIsDying = true))
    (herror : c'.sensorErrorStreak = 0)
    (hok : c'.state = .sensorFault → c'.sensorOkStreak = c.sensorOkStreak + 1)
    (hfault : c'.state = .sensorFault ↔
      c.state = .sensorFault ∧ c.sensorOkStreak + 1 < c.cfg.recoveryThreshold)
    (hto : c'.state ≠ .sensorFault → c'.state = .warmup ∨ c'.state = .run) :
    DebounceHolds cfg (h ++ [s]) c' ∧ DebounceStep cfg h s c c' := by
  have hF := faultSamples_pos cfg
  have hinvalid := invalidStreak_snoc_of_valid (h := h) hs
  have hvalid := validStreak_snoc_of_valid (h := h) hs
  rw [UInt8.lt_iff_toNat_lt, hd.recovery_eq] at hfault
  refine ⟨⟨hinv, by rw [hcfg, hd.fault_eq], by rw [hcfg, hd.recovery_eq],
    by rw [hcfg, hd.safe_eq], hunlocked, ?_, ?_⟩, ⟨?_, ?_, ?_⟩⟩
  · intro _
    rw [herror, hinvalid]
    exact ⟨rfl, hF⟩
  · intro hstate'
    obtain ⟨hstate, hlt⟩ := hfault.1 hstate'
    rw [hd.okStreak_succ hstate] at hlt
    rw [hok hstate', hvalid, hd.okStreak_succ hstate]
    exact ⟨rfl, hlt⟩
  · intro hstate
    rw [hinvalid]
    exact iff_of_false (fun hstate' => hstate (hfault.1 hstate').1) (Nat.ne_of_lt hF)
  · -- the streak was below the threshold before the sample
    intro hstate
    have hlt := (hd.okStreak hstate).2
    rw [Ne, hfault, and_iff_right hstate, hd.okStreak_succ hstate, hvalid]
    omega
  · exact fun _ hne => hto hne

/-- Every exit of an update keeps the relation to the history and moves in and out of
`SENSOR_FAULT` at the streaks' thresholds. -/
theorem debounceHolds_exit (hd : DebounceHolds cfg h c) (hx : UpdateExit lut p c w s r) :
    DebounceHolds cfg (h ++ [s]) r.ctrl ∧ DebounceStep cfg h s c r.ctrl := by
  have hinv := ctrlInv_exit hd.inv hx
  cases hx with
  | locked hlock => exact absurd hlock hd.unlocked
  | debounced hlock hs hlt =>
      refine hd.invalid hs hinv rfl hd.unlocked rfl rfl ?_
      exact (or_iff_left (UInt8.not_le.2 hlt)).symm
  | faulted hlock hs hge =>
      refine hd.invalid hs hinv rfl ?_ rfl rfl (iff_of_true rfl (Or.inr hge))
      exact fun hl => hlock (Or.inr (hl.resolve_left nofun))
  | recovering hlock hs hfault hlt =>
      -- `MATH_FAULT` is never entered, so the fault is `SENSOR_FAULT`
      have hstate : c.state = .sensorFault := hfault.resolve_right hd.inv.notMathFault
      refine hd.valid hs hinv rfl hd.unlocked rfl (fun _ => rfl) ?_ fun hne => absurd hstate hne
      exact iff_of_true hstate ⟨hstate, hlt⟩
  | processed hlock hs hready hp =>
      -- both exits leave `WARMUP` or `RUN`, with the error streak cleared
      have hstates : (r.ctrl.state = .warmup ∨ r.ctrl.state = .run) ∧
          r.ctrl.powerIsDying = c.powerIsDying ∧ r.ctrl.cfg = c.cfg ∧
          r.ctrl.sensorErrorStreak = 0 := by
        cases hp with
        | warming => exact ⟨Or.inl rfl, rfl, rfl, rfl⟩
        | running => exact ⟨Or.inr rfl, rfl, rfl, rfl⟩
      obtain ⟨hto, hdying, hcfg, hstreak⟩ := hstates
      have hnotFault : r.ctrl.state ≠ .sensorFault := by
        rcases hto with hto | hto <;> rw [hto] <;> exact nofun
      have hnotSafe : r.ctrl.state ≠ .safe := by
        rcases hto with hto | hto <;> rw [hto] <;> exact nofun
      refine hd.valid hs hinv hcfg ?_ hstreak (fun hf => absurd hf hnotFault) ?_ fun _ => hto
      · rintro (hl | hl)
        · exact hnotSafe hl
        · exact hlock (Or.inr (hdying ▸ hl))
      · refine iff_of_false hnotFault fun hheld => ?_
        exact absurd hheld.2 (UInt8.not_lt.2 (hready (Or.inl hheld.1)))

end Exits

/-- One update from a controller related to its history. -/
theorem sampleStep_debounce (lut : DewpointLut) {cfg : Option ControllerConfig} {h : List Sample}
    {σ : CtrlSys} (s : Sample) (hd : DebounceHolds cfg h σ.ctrl) :
    ∃ τ, sampleStep lut σ s = .ok τ ∧ DebounceHolds cfg (h ++ [s]) τ.ctrl ∧
      DebounceStep cfg h s σ.ctrl τ.ctrl := by
  obtain ⟨w, r, -, hr, hx, -⟩ := ctrlUpdate_inv lut σ.plat s hd.inv
  obtain ⟨hd', hstep⟩ := debounceHolds_exit hd hx
  exact ⟨⟨r.plat, r.ctrl⟩, sampleStep_of_update hr, hd', hstep⟩

/-- Every history of samples from `ctrl_init` is processed, and the relation to it holds at the
end. -/
theorem sampleRun_debounce (lut : DewpointLut) (p : Platform) (cfg : Option ControllerConfig)
    (h : List Sample) :
    ∃ σ, run (sampleStep lut) ⟨p, ctrlInit cfg⟩ h = .ok σ ∧ DebounceHolds cfg h σ.ctrl := by
  refine run_of_history (R := fun h (σ : CtrlSys) => DebounceHolds cfg h σ.ctrl)
    (A := fun _ => True) (debounceHolds_ctrlInit cfg) ?_ h fun _ _ => trivial
  intro is σ s hd _
  obtain ⟨τ, hτ, hd', -⟩ := sampleStep_debounce lut s hd
  exact ⟨τ, hτ, hd'⟩

/-- After every history of samples from `ctrl_init`, the next sample takes the controller into
`SENSOR_FAULT` exactly when it completes the fault threshold of invalid samples, and out of it, to
`WARMUP` or `RUN`, exactly when it completes the recovery threshold of valid samples; inside it the
relay is in its safe state. -/
theorem debounce_exact (lut : DewpointLut) (p : Platform) (cfg : Option ControllerConfig)
    (h : List Sample) (s : Sample) :
    ∃ σ τ, run (sampleStep lut) ⟨p, ctrlInit cfg⟩ h = .ok σ ∧
      run (sampleStep lut) ⟨p, ctrlInit cfg⟩ (h ++ [s]) = .ok τ ∧
      (σ.ctrl.state ≠ .sensorFault →
        (τ.ctrl.state = .sensorFault ↔ invalidStreak (h ++ [s]) = faultSamples cfg)) ∧
      (σ.ctrl.state = .sensorFault →
        (τ.ctrl.state ≠ .sensorFault ↔ validStreak (h ++ [s]) = recoverySamples cfg) ∧
        (τ.ctrl.state ≠ .sensorFault → τ.ctrl.state = .warmup ∨ τ.ctrl.state = .run) ∧
        σ.ctrl.relayOn = (cfg.getD controllerDefaults).relaySafeState) := by
  obtain ⟨σ, hσ, hd⟩ := sampleRun_debounce lut p cfg h
  obtain ⟨τ, hτ, -, hstep⟩ := sampleStep_debounce lut s hd
  refine ⟨σ, τ, hσ, by rw [run_snoc_ok hσ, hτ], hstep.enters, fun hf => ?_⟩
  refine ⟨hstep.leaves hf, hstep.leavesTo hf, ?_⟩
  rw [hd.inv.relaySafe (by rw [hf]; exact nofun), hd.safe_eq]

end ClimateNode.Core
