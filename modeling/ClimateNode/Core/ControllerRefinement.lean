import ClimateNode.Core.ControllerInvariant
import ClimateNode.Core.IdealController

/-!
# The controller refines the ideal one

`Refines c i` relates a controller to an ideal one: the state is the mode, the ring of the filter is
the window, the byte streaks are the unbounded ones where they matter, and the reported numbers are
equal. Both initialisations establish it and an update keeps it, with equal returned codes
(`refines_update`), although the byte that counts refused samples wraps during a long fault and the
arithmetic of the update is in 32 bits.
-/

set_option autoImplicit false

namespace ClimateNode.Core

open ClimateNode.Machine

/-! ## The two levels -/

def idealMode : CtrlState → IdealMode
  | .init => .starting
  | .warmup => .warming
  | .run => .running
  | .sensorFault | .mathFault => .faulty
  | .safe => .locked

def idealConfig (cfg : ControllerConfig) : IdealConfig where
  marginOn := cfg.dewMarginOnCd.toInt
  marginOff := cfg.dewMarginOffCd.toInt
  faultAfter := cfg.faultThreshold.toNat
  recoverAfter := cfg.recoveryThreshold.toNat
  safeState := cfg.relaySafeState

/-- What a sample says: a refused one says nothing. -/
def idealReading (s : Sample) : Option Reading :=
  if sampleIsValid s then some ⟨s.tempCd.toInt, s.rhCp.toNat⟩ else none

/-- The dew point that the table `lut` gives. -/
def idealDew (lut : DewpointLut) (temp : Int) (humidity : Nat) : Int :=
  dewpointExact temp (lnRhExact lut (UInt32.ofNat humidity))

/-- Ordered margins and positive thresholds, as an initialisation leaves them. -/
structure SoundConfig (cfg : ControllerConfig) : Prop where
  margins : cfg.dewMarginOnCd.toInt < cfg.dewMarginOffCd.toInt
  faultThreshold : 0 < cfg.faultThreshold.toNat
  recoveryThreshold : 0 < cfg.recoveryThreshold.toNat

/-- The controller `c` behaves as the ideal one `i`. -/
structure Refines (c : Controller) (i : IdealController) : Prop where
  inv : CtrlInv c
  sound : SoundConfig c.cfg
  idealInv : IdealInv (idealConfig c.cfg) i
  mode : i.mode = idealMode c.state
  window : ∃ w, SensorWindow c.filter w ∧ i.window = w.map Int32.toInt
  refused : c.state ≠ .sensorFault → c.state ≠ .safe →
    c.sensorErrorStreak.toNat = i.refused ∧ i.refused < c.cfg.faultThreshold.toNat
  recovered : c.sensorOkStreak.toNat = i.recovered
  relay : i.relay = c.relayOn
  temp : i.temp = c.filteredTempCd.toInt
  humidity : i.humidity = c.humidityCp.toNat
  dew : i.dew = c.dewPointCd.toInt

/-! ## Initialisation -/

theorem soundConfig_ctrlEffectiveConfig (cfg : ControllerConfig) :
    SoundConfig (ctrlEffectiveConfig cfg) where
  margins := by
    have h := dewMargins_ctrlEffectiveConfig cfg
    by_cases hlt : cfg.dewMarginOnCd < cfg.dewMarginOffCd
    · rw [if_pos hlt, Prod.mk.injEq] at h
      rw [h.1, h.2]
      exact Int32.lt_iff_toInt_lt.1 hlt
    · rw [if_neg hlt, Prod.mk.injEq] at h
      rw [h.1, h.2]
      decide
  faultThreshold := by
    rw [faultThreshold_ctrlEffectiveConfig]
    split
    · decide
    · rename_i hne
      exact Nat.pos_of_ne_zero fun h0 => hne (UInt8.toNat_inj.1 h0)
  recoveryThreshold := by
    rw [recoveryThreshold_ctrlEffectiveConfig]
    split
    · decide
    · rename_i hne
      exact Nat.pos_of_ne_zero fun h0 => hne (UInt8.toNat_inj.1 h0)

/-- The invariant is about the mode, the window and the recovery streak. -/
theorem IdealInv.of_eq {cfg : IdealConfig} {c d : IdealController} (h : IdealInv cfg c)
    (hmode : d.mode = c.mode) (hwindow : d.window = c.window)
    (hrecovered : d.recovered = c.recovered) : IdealInv cfg d := by
  obtain ⟨h₁, h₂, h₃, h₄, h₅⟩ := h
  constructor
  · rwa [hwindow]
  · rwa [hmode, hwindow]
  · rwa [hmode, hwindow]
  · rwa [hmode, hwindow]
  · rwa [hmode, hrecovered]

theorem idealInv_start {cfg : IdealConfig} {mode : IdealMode} (h : mode ≠ .running)
    (hfaulty : mode ≠ .faulty) : IdealInv cfg (idealStart cfg mode) where
  length_le := Nat.zero_le 5
  empty := fun _ => rfl
  filling := fun _ => Nat.zero_lt_succ 4
  full := fun hmode => absurd hmode h
  recovering := fun hmode => absurd hmode hfaulty

/-- What `ctrl_init` leaves, in whichever state a boot puts it, refines the ideal controller at its
start. -/
theorem refines_ctrlInit (cfg : Option ControllerConfig) {state : CtrlState}
    (hstate : state = .init ∨ state = .warmup ∨ state = .safe) (lastError : Err)
    (faultCount : UInt32) (crashes : UInt8) :
    Refines
      { ctrlInit cfg with
        state := state
        lastError := lastError
        faultCount := faultCount
        watchdogCrashCounter := crashes }
      (idealStart (idealConfig (ctrlInit cfg).cfg) (idealMode state)) := by
  have hsound := soundConfig_ctrlEffectiveConfig (cfg.getD controllerDefaults)
  have hmode : idealMode state ≠ .running ∧ idealMode state ≠ .faulty ∧ state ≠ .run ∧
      state ≠ .mathFault := by
    rcases hstate with rfl | rfl | rfl
    · exact ⟨nofun, nofun, nofun, nofun⟩
    · exact ⟨nofun, nofun, nofun, nofun⟩
    · exact ⟨nofun, nofun, nofun, nofun⟩
  obtain ⟨hrunning, hfaulty, hrun, hmath⟩ := hmode
  constructor
  · exact ⟨⟨[], sensorWindow_maInit⟩, fun _ => rfl, fun h => absurd h hrun, hmath, nofun⟩
  · exact hsound
  · exact idealInv_start hrunning hfaulty
  · rfl
  · exact ⟨[], sensorWindow_maInit, rfl⟩
  · exact fun _ _ => ⟨rfl, hsound.faultThreshold⟩
  · rfl
  · rfl
  · rfl
  · rfl
  · rfl

/-- Every boot refines the ideal controller at its start. -/
theorem refines_start (p : Platform) (boot : CtrlBoot) :
    Refines (boot.start p).ctrl
      (idealStart (idealConfig (boot.start p).ctrl.cfg) (idealMode (boot.start p).ctrl.state)) := by
  cases boot with
  | init cfg => exact refines_ctrlInit cfg (Or.inl rfl) .notReady 0 0
  | initExtended backup cfg cause =>
      simp only [CtrlBoot.start]
      by_cases hw : cause = .watchdog
      · subst hw
        rw [ctrlInitExtended_watchdog]
        refine refines_ctrlInit cfg ?_ .hw 1 _
        split
        · exact Or.inr (Or.inr rfl)
        · exact Or.inr (Or.inl rfl)
      · by_cases hp : cause = .powerOn
        · subst hp
          rw [ctrlInitExtended_powerOn]
          exact refines_ctrlInit cfg (Or.inl rfl) .notReady 0 0
        · rw [ctrlInitExtended_other _ cfg hw hp]
          exact refines_ctrlInit cfg (Or.inl rfl) .notReady 0 0

/-! ## One update -/

section Update

variable {lut : DewpointLut} {p : Platform} {c : Controller} {i : IdealController}
  {w : List TempCd} {s : Sample} {r : CtrlStep}

theorem Refines.locked_iff (h : Refines c i) :
    i.mode = .locked ↔ c.state = .safe ∨ c.powerIsDying = true := by
  rw [h.mode]
  constructor
  · intro hmode
    cases hstate : c.state <;> simp_all [idealMode]
  · intro hlock
    have hsafe : c.state = .safe := hlock.elim id h.inv.dyingSafe
    rw [hsafe]
    rfl

theorem Refines.faulty_iff (h : Refines c i) : i.mode = .faulty ↔ c.state = .sensorFault := by
  have hmath := h.inv.notMathFault
  rw [h.mode]
  cases hstate : c.state <;> simp_all [idealMode]

theorem relayDecision_eq_hysteresis (cfg : ControllerConfig) (on : Bool) (marginCd : TempCd) :
    relayDecision cfg on marginCd =
      hysteresis cfg.dewMarginOnCd.toInt cfg.dewMarginOffCd.toInt on marginCd.toInt := by
  simp only [relayDecision, hysteresis, gt_iff_lt, Int32.lt_iff_toInt_lt]

theorem idealMean_map (v : List TempCd) : idealMean (v.map Int32.toInt) = windowMean v := by
  rw [idealMean, windowMean, windowSum, List.length_map]

/-- A processed sample: the ring moves as the window does, and the arithmetic of the update is
exact. -/
theorem refines_processExit (h : Refines c i) (hi : i.window = w.map Int32.toInt)
    (hx : ProcessExit lut p c w s r) (hinv : CtrlInv r.ctrl) :
    Refines r.ctrl
        (idealProcess (idealConfig c.cfg) (idealDew lut) i ⟨s.tempCd.toInt, s.rhCp.toNat⟩) ∧
      r.err = if (idealProcess (idealConfig c.cfg) (idealDew lut) i
          ⟨s.tempCd.toInt, s.rhCp.toNat⟩).mode = .running then .ok else .warmup := by
  have hpush : pushWindow 5 i.window s.tempCd.toInt =
      (pushWindow 5 w s.tempCd).map Int32.toInt := by
    rw [map_pushWindow, hi]
  have hthreshold := h.sound.faultThreshold
  cases hx with
  | warming f avg hwin hlen havg =>
      have hshort : (pushWindow 5 i.window s.tempCd.toInt).length < 5 := by
        rw [hpush, List.length_map]
        exact hlen
      have hmean : idealMean (pushWindow 5 i.window s.tempCd.toInt) = avg.toInt := by
        rw [hpush, idealMean_map, havg]
      unfold idealProcess
      simp only [if_pos hshort]
      refine ⟨⟨hinv, h.sound, ?_, rfl, ?_, ?_, rfl, rfl, hmean, rfl, h.dew⟩, rfl⟩
      · exact ⟨Nat.le_of_lt hshort, nofun, fun _ => hshort, nofun, nofun⟩
      · exact ⟨_, hwin, hpush⟩
      · exact fun _ _ => ⟨rfl, hthreshold⟩
  | running f avg dew marginCd hwin hlen havg hdew hmargin =>
      have hfull : (pushWindow 5 i.window s.tempCd.toInt).length = 5 := by
        rw [hpush, List.length_map]
        exact hlen
      have hmean : idealMean (pushWindow 5 i.window s.tempCd.toInt) = avg.toInt := by
        rw [hpush, idealMean_map, havg]
      have hdew' : idealDew lut avg.toInt s.rhCp.toNat = dew.toInt := by
        rw [idealDew, UInt32.ofNat_toNat, hdew]
      have hnot : ¬ (pushWindow 5 i.window s.tempCd.toInt).length < 5 := by omega
      unfold idealProcess
      simp only [if_neg hnot, hmean, hdew']
      refine ⟨⟨hinv, h.sound, ?_, rfl, ?_, ?_, rfl, ?_, rfl, rfl, rfl⟩, rfl⟩
      · exact ⟨Nat.le_of_eq hfull, nofun, nofun, fun _ => hfull, nofun⟩
      · exact ⟨_, hwin, hpush⟩
      · exact fun _ _ => ⟨rfl, hthreshold⟩
      · show hysteresis _ _ _ _ = relayDecision c.cfg c.relayOn marginCd
        rw [relayDecision_eq_hysteresis, hmargin, h.relay]
        rfl

theorem idealReading_of_valid (hs : sampleIsValid s = true) :
    idealReading s = some ⟨s.tempCd.toInt, s.rhCp.toNat⟩ := if_pos hs

theorem idealReading_of_invalid (hs : sampleIsValid s = false) : idealReading s = none :=
  if_neg (by rw [hs]; exact Bool.false_ne_true)

theorem idealRefuse_of_fault {cfg : IdealConfig}
    (h : cfg.faultAfter ≤ i.refused + 1 ∨ i.mode = .faulty) :
    idealRefuse cfg i =
      { i with
        mode := .faulty
        refused := i.refused + 1
        recovered := 0
        relay := cfg.safeState } := if_pos h

theorem idealRefuse_of_count {cfg : IdealConfig}
    (h : ¬ (cfg.faultAfter ≤ i.refused + 1 ∨ i.mode = .faulty)) :
    idealRefuse cfg i = { i with refused := i.refused + 1, recovered := 0 } := if_neg h

/-- Outside a fault the streak is below a byte, so its successor does not wrap. -/
theorem Refines.toNat_errorStreak_succ (h : Refines c i) (hfault : c.state ≠ .sensorFault)
    (hsafe : c.state ≠ .safe) : (c.sensorErrorStreak + 1).toNat = i.refused + 1 := by
  obtain ⟨hcount, hlow⟩ := h.refused hfault hsafe
  have hbyte := c.cfg.faultThreshold.toNat_lt
  have hsum : (c.sensorErrorStreak + 1).toNat = (c.sensorErrorStreak.toNat + 1) % 256 :=
    UInt8.toNat_add _ 1
  rw [hsum, hcount]
  exact Nat.mod_eq_of_lt (by omega)

/-- Inside a fault the recovery streak is below its end. -/
theorem Refines.toNat_okStreak_succ (h : Refines c i) (hfault : c.state = .sensorFault) :
    (c.sensorOkStreak + 1).toNat = i.recovered + 1 := by
  have hlow : i.recovered < c.cfg.recoveryThreshold.toNat :=
    h.idealInv.recovering (h.faulty_iff.2 hfault)
  have hbyte := c.cfg.recoveryThreshold.toNat_lt
  have hsum : (c.sensorOkStreak + 1).toNat = (c.sensorOkStreak.toNat + 1) % 256 :=
    UInt8.toNat_add _ 1
  rw [hsum, h.recovered]
  exact Nat.mod_eq_of_lt (by omega)

/-- A refused sample that leaves a fault. -/
theorem Refines.fault (h : Refines c i) (hw : SensorWindow c.filter w)
    (hi : i.window = w.map Int32.toInt) {c' : Controller} (hinv : CtrlInv c')
    (hstate : c'.state = .sensorFault) (hcfg : c'.cfg = c.cfg) (hfilter : c'.filter = c.filter)
    (hok : c'.sensorOkStreak = 0) (htemp : c'.filteredTempCd = c.filteredTempCd)
    (hhumidity : c'.humidityCp = c.humidityCp) (hdew : c'.dewPointCd = c.dewPointCd)
    (hrelay : c'.relayOn = c.cfg.relaySafeState) (n : Nat) :
    Refines c'
      { i with
        mode := .faulty
        refused := n
        recovered := 0
        relay := (idealConfig c.cfg).safeState } where
  inv := hinv
  sound := hcfg ▸ h.sound
  idealInv := by
    rw [hcfg]
    exact ⟨h.idealInv.length_le, nofun, nofun, nofun, fun _ => h.sound.recoveryThreshold⟩
  mode := by
    rw [hstate]
    rfl
  window := ⟨w, hfilter ▸ hw, hi⟩
  refused := fun hne => absurd hstate hne
  recovered := by
    rw [hok]
    rfl
  relay := hrelay.symm
  temp := by rw [htemp, ← h.temp]
  humidity := by rw [hhumidity, ← h.humidity]
  dew := by rw [hdew, ← h.dew]

/-- Every exit of an update is a step of the ideal controller with the same code. -/
theorem refines_exit (h : Refines c i) (hi : i.window = w.map Int32.toInt)
    (hw : SensorWindow c.filter w) (hx : UpdateExit lut p c w s r) :
    Refines r.ctrl (idealUpdate (idealConfig c.cfg) (idealDew lut) i (idealReading s)).1 ∧
      r.err = (idealUpdate (idealConfig c.cfg) (idealDew lut) i (idealReading s)).2 := by
  have hinv := ctrlInv_exit h.inv hx
  have hlocked := h.locked_iff
  have hfaulty := h.faulty_iff
  cases hx with
  | locked hlock =>
      have hsafe : c.state = .safe := hlock.elim id h.inv.dyingSafe
      rw [idealUpdate_locked (hlocked.2 hlock)]
      refine ⟨⟨hinv, h.sound, ?_, h.mode, ⟨w, hw, hi⟩, ?_, h.recovered, rfl, h.temp, h.humidity,
        h.dew⟩, rfl⟩
      · exact h.idealInv.of_eq rfl rfl rfl
      · exact fun _ hne => absurd hsafe hne
  | debounced hlock hs hlt =>
      rw [idealReading_of_invalid hs, idealUpdate_refused (mt hlocked.1 hlock)]
      refine ⟨?_, rfl⟩
      by_cases hfault : c.state = .sensorFault
      · -- the byte that counts has wrapped: the fault stays, and so does the relay
        have hsafe : c.relayOn = c.cfg.relaySafeState := by
          apply h.inv.relaySafe
          rw [hfault]
          exact nofun
        rw [idealRefuse_of_fault (Or.inr (hfaulty.2 hfault))]
        exact h.fault hw hi hinv hfault rfl rfl rfl rfl rfl rfl hsafe _
      · obtain ⟨hcount, hlow⟩ := h.refused hfault fun hsafe => hlock (Or.inl hsafe)
        have hnext := h.toNat_errorStreak_succ hfault fun hsafe => hlock (Or.inl hsafe)
        have hlt' := UInt8.lt_iff_toNat_lt.1 hlt
        rw [hnext] at hlt'
        have hnot : ¬ ((idealConfig c.cfg).faultAfter ≤ i.refused + 1 ∨ i.mode = .faulty) := by
          rintro (hle | hmode)
          · exact absurd hlt' (Nat.not_lt.2 hle)
          · exact hfault (hfaulty.1 hmode)
        rw [idealRefuse_of_count hnot]
        refine ⟨hinv, h.sound, ?_, h.mode, ⟨w, hw, hi⟩, ?_, rfl, h.relay, h.temp, h.humidity,
          h.dew⟩
        · refine ⟨h.idealInv.length_le, h.idealInv.empty, h.idealInv.filling, h.idealInv.full,
            fun hmode => ?_⟩
          exact absurd (hfaulty.1 hmode) hfault
        · exact fun _ _ => ⟨hnext, hlt'⟩
  | faulted hlock hs hge =>
      rw [idealReading_of_invalid hs, idealUpdate_refused (mt hlocked.1 hlock)]
      refine ⟨?_, rfl⟩
      have hfault : (idealConfig c.cfg).faultAfter ≤ i.refused + 1 ∨ i.mode = .faulty := by
        by_cases hfault : c.state = .sensorFault
        · exact Or.inr (hfaulty.2 hfault)
        · have hnext := h.toNat_errorStreak_succ hfault fun hsafe => hlock (Or.inl hsafe)
          have hge' := UInt8.le_iff_toNat_le.1 hge
          rw [hnext] at hge'
          exact Or.inl hge'
      rw [idealRefuse_of_fault hfault]
      exact h.fault hw hi hinv rfl rfl rfl rfl rfl rfl rfl rfl _
  | recovering hlock hs hfault hlt =>
      have hstate : c.state = .sensorFault := hfault.resolve_right h.inv.notMathFault
      have hnext := h.toNat_okStreak_succ hstate
      have hlt' := UInt8.lt_iff_toNat_lt.1 hlt
      rw [hnext] at hlt'
      have hmode := hfaulty.2 hstate
      rw [idealReading_of_valid hs, idealUpdate_ignored hmode hlt']
      refine ⟨⟨hinv, h.sound, ?_, h.mode, ⟨w, hw, hi⟩, ?_, hnext, h.relay, h.temp, h.humidity,
        h.dew⟩, rfl⟩
      · exact ⟨h.idealInv.length_le, h.idealInv.empty, h.idealInv.filling, h.idealInv.full,
          fun _ => hlt'⟩
      · exact fun hne _ => absurd hstate hne
  | processed hlock hs hready hp =>
      have hready' : readingsIgnored (idealConfig c.cfg) i = 0 := by
        rw [readingsIgnored]
        split
        · rename_i hmode
          have hstate := hfaulty.1 hmode
          have hge := UInt8.le_iff_toNat_le.1 (hready (Or.inl hstate))
          rw [h.toNat_okStreak_succ hstate] at hge
          show c.cfg.recoveryThreshold.toNat - 1 - i.recovered = 0
          omega
        · rfl
      rw [idealReading_of_valid hs, idealUpdate_processed (mt hlocked.1 hlock) hready']
      exact refines_processExit h hi hp hinv

/-- An update returns the code of the ideal controller and leaves what refines it. -/
theorem refines_update (lut : DewpointLut) (p : Platform) (h : Refines c i) (s : Sample) :
    ∃ r, ctrlUpdate lut p c s = .ok r ∧ r.ctrl.cfg = c.cfg ∧
      Refines r.ctrl (idealUpdate (idealConfig c.cfg) (idealDew lut) i (idealReading s)).1 ∧
      r.err = (idealUpdate (idealConfig c.cfg) (idealDew lut) i (idealReading s)).2 := by
  obtain ⟨w, hw, hi⟩ := h.window
  obtain ⟨r, hr, hx⟩ := ctrlUpdate_exit lut p s hw
  exact ⟨r, hr, (relayCalls_cfg_of_exit hx).2, refines_exit h hi hw hx⟩

/-- The emergency shutdown locks both. -/
theorem refines_forceShutdown (p : Platform) (h : Refines c i) :
    Refines (ctrlForceEmergencyShutdown p c).2
      { i with mode := .locked, relay := (idealConfig c.cfg).safeState } where
  inv := ctrlInv_forceShutdown p h.inv
  sound := h.sound
  idealInv := ⟨h.idealInv.length_le, nofun, nofun, nofun, nofun⟩
  mode := rfl
  window := h.window
  refused := fun _ hne => absurd rfl hne
  recovered := h.recovered
  relay := rfl
  temp := h.temp
  humidity := h.humidity
  dew := h.dew

end Update

end ClimateNode.Core
