import ClimateNode.Core.Dewpoint
import ClimateNode.Core.Filter
import Mathlib.Tactic.SplitIfs

/-!
# The controller state machine

`core/controller.c`: two initialisations, the emergency shutdown and the update that processes one
sample. `ctrlUpdate` has nine exits in the source. `UpdateExit` lists what an update can do from a
state whose filter holds a window of in-range temperatures: six exits, each with the complete next
state; the numeric exits are not among them. `ctrlUpdate_exit` is the one lemma about the body of
the update, and everything proved about it afterwards is a case analysis of its exits.
-/

set_option autoImplicit false

namespace ClimateNode.Core

open ClimateNode.Machine

/-- `ctrl_state_t`. -/
inductive CtrlState where
  | init
  | warmup
  | run
  | sensorFault
  | mathFault
  | safe
  deriving DecidableEq, Repr

/-- `controller_config_t`. -/
structure ControllerConfig where
  dewMarginOnCd : TempCd
  dewMarginOffCd : TempCd
  samplePeriodMs : TimeMs
  faultThreshold : UInt8
  recoveryThreshold : UInt8
  relaySafeState : Bool
  deriving DecidableEq, Repr

/-- `CONTROLLER_DEFAULTS`. -/
def controllerDefaults : ControllerConfig where
  dewMarginOnCd := 500
  dewMarginOffCd := 700
  samplePeriodMs := 1000
  faultThreshold := 3
  recoveryThreshold := 3
  relaySafeState := false

/-- `controller_t`. -/
structure Controller where
  cfg : ControllerConfig
  filter : MaFilter
  filteredTempCd : TempCd
  humidityCp : RhCp
  dewPointCd : TempCd
  sensorErrorStreak : UInt8
  sensorOkStreak : UInt8
  relayOn : Bool
  state : CtrlState
  lastError : Err
  sampleCount : UInt32
  faultCount : UInt32
  watchdogCrashCounter : UInt8
  powerIsDying : Bool
  deriving DecidableEq, Repr

/-- `ctrl_set_relay`. -/
def ctrlSetRelay (c : Controller) (on : Bool) : Controller := { c with relayOn := on }

/-- `ctrl_relay_on`. -/
def ctrlRelayOn (c : Controller) : Bool := c.relayOn

/-- `sample_is_valid`. -/
def sampleIsValid (s : Sample) : Bool :=
  if s.quality ≠ .valid then false
  else if s.tempCd < tempCdMin ∨ s.tempCd > tempCdMax then false
  else if s.rhCp > rhCpMax then false
  else true

/-! ## Initialisation -/

/-- The configuration that `ctrl_init` keeps: inverted margins fall back to the defaults, zero
thresholds to one and a zero period to 1000 ms. -/
def ctrlEffectiveConfig (cfg : ControllerConfig) : ControllerConfig where
  dewMarginOnCd := if cfg.dewMarginOnCd ≥ cfg.dewMarginOffCd then controllerDefaults.dewMarginOnCd
    else cfg.dewMarginOnCd
  dewMarginOffCd := if cfg.dewMarginOnCd ≥ cfg.dewMarginOffCd then controllerDefaults.dewMarginOffCd
    else cfg.dewMarginOffCd
  samplePeriodMs := if cfg.samplePeriodMs = 0 then 1000 else cfg.samplePeriodMs
  faultThreshold := if cfg.faultThreshold = 0 then 1 else cfg.faultThreshold
  recoveryThreshold := if cfg.recoveryThreshold = 0 then 1 else cfg.recoveryThreshold
  relaySafeState := cfg.relaySafeState

/-- `ctrl_init`; it writes every field. A null `cfg` selects the defaults. -/
def ctrlInit (cfg : Option ControllerConfig) : Controller where
  cfg := ctrlEffectiveConfig (cfg.getD controllerDefaults)
  filter := maInit
  filteredTempCd := 0
  humidityCp := 0
  dewPointCd := 0
  sensorErrorStreak := 0
  sensorOkStreak := 0
  relayOn := (ctrlEffectiveConfig (cfg.getD controllerDefaults)).relaySafeState
  state := .init
  lastError := .notReady
  sampleCount := 0
  faultCount := 0
  watchdogCrashCounter := 0
  powerIsDying := false

/-- `ctrl_init_extended`. -/
def ctrlInitExtended (p : Platform) (cfg : Option ControllerConfig) (cause : ResetCause) :
    Platform × Controller :=
  let c := { ctrlInit cfg with powerIsDying := false }
  -- the count of the boots before this one
  let c : Controller := match platformEmergencyBackupLoad p with
    | some savedCrashes => { c with watchdogCrashCounter := savedCrashes }
    | none => c
  match cause with
  | .watchdog =>
      let c : Controller := { c with
        watchdogCrashCounter := c.watchdogCrashCounter + 1
        faultCount := c.faultCount + 1
        lastError := .hw }
      let p := platformEmergencyBackupSave p c.watchdogCrashCounter
      -- the third crash in a row locks the controller
      if c.watchdogCrashCounter ≥ 3 then
        (p, { c with state := .safe, relayOn := c.cfg.relaySafeState })
      else (p, { c with state := .warmup })
  | .powerOn =>
      let c := { c with watchdogCrashCounter := 0 }
      let p := platformEmergencyBackupSave p c.watchdogCrashCounter
      (p, { c with state := .init })
  | .software | .external | .unknown =>
      -- the field is cleared, the register is not
      (p, { c with watchdogCrashCounter := 0, state := .init })

/-- `ctrl_force_emergency_shutdown`. -/
def ctrlForceEmergencyShutdown (p : Platform) (c : Controller) : Platform × Controller :=
  let c := { c with powerIsDying := true, state := .safe, relayOn := c.cfg.relaySafeState }
  (platformRelaySet p c.relayOn, c)

/-! ## The update -/

/-- What `ctrl_update` leaves: the platform, the controller and the returned code. -/
structure CtrlStep where
  plat : Platform
  ctrl : Controller
  err : Err
  deriving DecidableEq, Repr

/-- The branch of `ctrl_update` for an invalid sample. -/
def ctrlRejectSample (p : Platform) (c : Controller) : CtrlStep :=
  let c := { c with
    sensorErrorStreak := c.sensorErrorStreak + 1
    sensorOkStreak := 0
    lastError := .sensor }
  let c := if c.sensorErrorStreak ≥ c.cfg.faultThreshold then
      ctrlSetRelay { c with state := .sensorFault, faultCount := c.faultCount + 1 }
        c.cfg.relaySafeState
    else c
  ⟨p, c, .sensor⟩

/-- The exits of `ctrl_update` for a filter or dew-point error. -/
def ctrlMathFault (p : Platform) (c : Controller) (e : Err) : CtrlStep :=
  let c := { c with state := .mathFault, lastError := e, faultCount := c.faultCount + 1 }
  ⟨p, ctrlSetRelay c c.cfg.relaySafeState, e⟩

/-- The two-threshold relay decision of `ctrl_update`. -/
def ctrlSwitchRelay (c : Controller) (marginCd : TempCd) : Controller :=
  if !c.relayOn then
    if marginCd < c.cfg.dewMarginOnCd then ctrlSetRelay c true else c
  else
    if marginCd > c.cfg.dewMarginOffCd then ctrlSetRelay c false else c

/-- The crash-counter reset of `ctrl_update` on a stable run. -/
def ctrlClearCrashes (p : Platform) (c : Controller) : Platform × Controller :=
  if c.watchdogCrashCounter > 0 then
    let c := { c with watchdogCrashCounter := 0 }
    (platformEmergencyBackupSave p c.watchdogCrashCounter, c)
  else (p, c)

/-- The part of `ctrl_update` after the recovery check: filter, dew point and relay. -/
def ctrlProcessSample (lut : DewpointLut) (p : Platform) (c : Controller) (s : Sample) :
    Checked CtrlStep := do
  let c := { c with sensorOkStreak := 0, humidityCp := s.rhCp }
  let m ← maUpdate c.filter s.tempCd
  let c := { c with filter := m.filter, filteredTempCd := m.avg }
  match m.err with
  | .warmup =>
      let c := { c with state := .warmup, lastError := .warmup }
      pure ⟨p, ctrlSetRelay c c.cfg.relaySafeState, .warmup⟩
  | .ok => do
      -- the window is full: margin, relay and the crash counter
      let d ← dewpointCalcCd lut c.filteredTempCd c.humidityCp
      match d with
      | .error derr => pure (ctrlMathFault p c derr)
      | .ok dew => do
          let c := { c with dewPointCd := dew }
          let marginCd ← subI32 c.filteredTempCd c.dewPointCd
          let pc := ctrlClearCrashes p (ctrlSwitchRelay c marginCd)
          pure ⟨pc.1, { pc.2 with state := .run, lastError := .ok }, .ok⟩
  | ferr => pure (ctrlMathFault p c ferr)

/-- `ctrl_update`. -/
def ctrlUpdate (lut : DewpointLut) (p : Platform) (c : Controller) (s : Sample) :
    Checked CtrlStep :=
  if c.state = .safe ∨ c.powerIsDying then
    .ok ⟨p, ctrlSetRelay c c.cfg.relaySafeState, .hw⟩
  else
    -- the guard returned before the sample was counted
    let c := { c with sampleCount := c.sampleCount + 1 }
    if !sampleIsValid s then .ok (ctrlRejectSample p c)
    else
      let c := { c with sensorErrorStreak := 0 }
      if c.state = .sensorFault ∨ c.state = .mathFault then
        -- a fault is left only after enough valid samples
        let c := { c with sensorOkStreak := c.sensorOkStreak + 1 }
        if c.sensorOkStreak < c.cfg.recoveryThreshold then
          .ok ⟨p, { c with lastError := .notReady }, .notReady⟩
        else ctrlProcessSample lut p c s
      else ctrlProcessSample lut p c s

/-! ## What an initialisation establishes -/

section Config

variable (cfg : ControllerConfig)

@[simp] theorem relaySafeState_ctrlEffectiveConfig :
    (ctrlEffectiveConfig cfg).relaySafeState = cfg.relaySafeState := rfl

/-- Ordered margins are kept; others become the default ones. -/
theorem dewMargins_ctrlEffectiveConfig :
    ((ctrlEffectiveConfig cfg).dewMarginOnCd, (ctrlEffectiveConfig cfg).dewMarginOffCd) =
      if cfg.dewMarginOnCd < cfg.dewMarginOffCd then (cfg.dewMarginOnCd, cfg.dewMarginOffCd)
      else (500, 700) := by
  by_cases h : cfg.dewMarginOnCd < cfg.dewMarginOffCd
  · have hge : ¬ cfg.dewMarginOnCd ≥ cfg.dewMarginOffCd := Int32.not_le.2 h
    simp only [ctrlEffectiveConfig, if_neg hge, if_pos h]
  · have hge : cfg.dewMarginOnCd ≥ cfg.dewMarginOffCd := Int32.not_lt.1 h
    simp only [ctrlEffectiveConfig, if_pos hge, if_neg h, controllerDefaults]

theorem samplePeriodMs_ctrlEffectiveConfig :
    (ctrlEffectiveConfig cfg).samplePeriodMs =
      if cfg.samplePeriodMs = 0 then 1000 else cfg.samplePeriodMs := rfl

theorem faultThreshold_ctrlEffectiveConfig :
    (ctrlEffectiveConfig cfg).faultThreshold =
      if cfg.faultThreshold = 0 then 1 else cfg.faultThreshold := rfl

theorem recoveryThreshold_ctrlEffectiveConfig :
    (ctrlEffectiveConfig cfg).recoveryThreshold =
      if cfg.recoveryThreshold = 0 then 1 else cfg.recoveryThreshold := rfl

/-- Where `ctrl_init` takes the configuration from, and the safe state it leaves the relay in. -/
@[simp] theorem cfg_ctrlInit (cfg : Option ControllerConfig) :
    (ctrlInit cfg).cfg = ctrlEffectiveConfig (cfg.getD controllerDefaults) := rfl

end Config

section Boot

variable (p : Platform) (cfg : Option ControllerConfig)

/-- A watchdog boot counts the crash in the register and locks from the third count on. -/
theorem ctrlInitExtended_watchdog :
    ctrlInitExtended p cfg .watchdog =
      (platformEmergencyBackupSave p (p.backupReg + 1),
        { ctrlInit cfg with
          watchdogCrashCounter := p.backupReg + 1
          faultCount := 1
          lastError := .hw
          state := if p.backupReg + 1 ≥ 3 then .safe else .warmup }) := by
  have hone : (0 : UInt32) + 1 = 1 := by decide
  simp only [ctrlInitExtended, ctrlInit, platformEmergencyBackupLoad, hone]
  by_cases h : p.backupReg + 1 ≥ 3 <;> simp only [h, ↓reduceIte]

/-- A power-on boot clears the register. -/
theorem ctrlInitExtended_powerOn :
    ctrlInitExtended p cfg .powerOn = (platformEmergencyBackupSave p 0, ctrlInit cfg) := by
  simp only [ctrlInitExtended, ctrlInit, platformEmergencyBackupLoad]

/-- Every other boot clears the counter and leaves the register. -/
theorem ctrlInitExtended_other {cause : ResetCause} (hw : cause ≠ .watchdog)
    (hp : cause ≠ .powerOn) : ctrlInitExtended p cfg cause = (p, ctrlInit cfg) := by
  cases cause with
  | watchdog => exact absurd rfl hw
  | powerOn => exact absurd rfl hp
  | software => simp only [ctrlInitExtended, ctrlInit, platformEmergencyBackupLoad]
  | external => simp only [ctrlInitExtended, ctrlInit, platformEmergencyBackupLoad]
  | unknown => simp only [ctrlInitExtended, ctrlInit, platformEmergencyBackupLoad]

end Boot

/-! ## What an update does -/

/-- The temperatures `sample_is_valid` lets through. -/
def InSensorRange (x : TempCd) : Prop := -4000 ≤ x.toInt ∧ x.toInt ≤ 8500

theorem sampleIsValid_iff (s : Sample) :
    sampleIsValid s = true ↔
      s.quality = .valid ∧ InSensorRange s.tempCd ∧ s.rhCp.toNat ≤ 10000 := by
  have htemp : (s.tempCd < tempCdMin ∨ s.tempCd > tempCdMax) ↔ ¬ InSensorRange s.tempCd := by
    simp only [gt_iff_lt, Int32.lt_iff_toInt_lt, toInt_tempCdMin, toInt_tempCdMax, InSensorRange]
    omega
  have hrh : s.rhCp > rhCpMax ↔ ¬ s.rhCp.toNat ≤ 10000 := by
    simp only [gt_iff_lt, UInt32.lt_iff_toNat_lt, toNat_rhCpMax, not_le]
  unfold sampleIsValid
  split_ifs with hq ht hr
  · simp [hq]
  · simp [htemp.1 ht]
  · simp [hrh.1 hr]
  · simpa using ⟨not_not.1 hq, not_not.1 (mt htemp.2 ht), not_not.1 (mt hrh.2 hr)⟩

/-- The filter holds the window `w`, and all of it came from valid samples. -/
structure SensorWindow (f : MaFilter) (w : List TempCd) : Prop where
  holds : FilterHolds f w
  inRange : ∀ x ∈ w, InSensorRange x

theorem sensorWindow_maInit : SensorWindow maInit [] where
  holds := filterHolds_maInit
  inRange := by simp

theorem InSensorRange.summable5 {x : TempCd} (h : InSensorRange x) : Summable5 x := by
  obtain ⟨hlo, hhi⟩ := h
  constructor
  · omega
  · omega

/-- A valid temperature keeps the window one of valid temperatures. -/
theorem SensorWindow.push {f : MaFilter} {w : List TempCd} (h : SensorWindow f w) {x : TempCd}
    (hx : InSensorRange x) : ∀ y ∈ pushWindow 5 w x, InSensorRange y := by
  intro y hy
  rcases mem_pushWindow hy with hy | rfl
  · exact h.inRange y hy
  · exact hx

/-- The mean of a window of valid temperatures, as `ma_update` truncates it. -/
def windowMean (w : List TempCd) : Int := (windowSum w).tdiv w.length

theorem windowMean_mem {w : List TempCd} (hw : w ≠ []) (h : ∀ x ∈ w, InSensorRange x) :
    -4000 ≤ windowMean w ∧ windowMean w ≤ 8500 := windowSum_tdiv_mem hw h

/-- Whether the relay is on after the two-threshold decision. -/
def relayDecision (cfg : ControllerConfig) (on : Bool) (marginCd : TempCd) : Bool :=
  if on then !decide (marginCd > cfg.dewMarginOffCd) else decide (marginCd < cfg.dewMarginOnCd)

theorem ctrlSwitchRelay_eq (c : Controller) (marginCd : TempCd) :
    ctrlSwitchRelay c marginCd = { c with relayOn := relayDecision c.cfg c.relayOn marginCd } := by
  cases c with
  | mk cfg filter t h d es os on st err sc fc wc dying =>
      cases on with
      | false =>
          by_cases hm : marginCd < cfg.dewMarginOnCd <;>
            simp [ctrlSwitchRelay, ctrlSetRelay, relayDecision, hm]
      | true =>
          by_cases hm : cfg.dewMarginOffCd < marginCd <;>
            simp [ctrlSwitchRelay, ctrlSetRelay, relayDecision, hm]

/-- The platform after the crash-counter reset. -/
def clearedPlatform (p : Platform) (c : Controller) : Platform :=
  if c.watchdogCrashCounter = 0 then p else platformEmergencyBackupSave p 0

theorem ctrlClearCrashes_eq (p : Platform) (c : Controller) :
    ctrlClearCrashes p c = (clearedPlatform p c, { c with watchdogCrashCounter := 0 }) := by
  by_cases h : c.watchdogCrashCounter = 0
  · cases c
    simp_all [ctrlClearCrashes, clearedPlatform]
  · have hpos : c.watchdogCrashCounter > 0 := by
      rw [gt_iff_lt, UInt8.lt_iff_toNat_lt]
      exact Nat.pos_of_ne_zero fun h0 => h (UInt8.toNat_inj.1 h0)
    simp [ctrlClearCrashes, clearedPlatform, h, hpos]

/-- The controller once the valid sample `s` has left the filter `f` with the mean `avg`. -/
def ctrlFiltered (c : Controller) (s : Sample) (f : MaFilter) (avg : TempCd) : Controller :=
  { c with
    sampleCount := c.sampleCount + 1
    sensorErrorStreak := 0
    sensorOkStreak := 0
    humidityCp := s.rhCp
    filter := f
    filteredTempCd := avg }

/-- The exits of an update whose sample reaches the filter, from a controller whose filter holds
`w`. -/
inductive ProcessExit (lut : DewpointLut) (p : Platform) (c : Controller) (w : List TempCd)
    (s : Sample) : CtrlStep → Prop where
  | warming (f : MaFilter) (avg : TempCd)
      (hwin : SensorWindow f (pushWindow 5 w s.tempCd))
      (hlen : (pushWindow 5 w s.tempCd).length < 5)
      (havg : avg.toInt = windowMean (pushWindow 5 w s.tempCd)) :
      ProcessExit lut p c w s
        ⟨p, { ctrlFiltered c s f avg with
              state := .warmup
              lastError := .warmup
              relayOn := c.cfg.relaySafeState }, .warmup⟩
  | running (f : MaFilter) (avg dew marginCd : TempCd)
      (hwin : SensorWindow f (pushWindow 5 w s.tempCd))
      (hlen : (pushWindow 5 w s.tempCd).length = 5)
      (havg : avg.toInt = windowMean (pushWindow 5 w s.tempCd))
      (hdew : dew.toInt = dewpointExact avg.toInt (lnRhExact lut s.rhCp))
      (hmargin : marginCd.toInt = avg.toInt - dew.toInt) :
      ProcessExit lut p c w s
        ⟨clearedPlatform p c, { ctrlFiltered c s f avg with
              dewPointCd := dew
              relayOn := relayDecision c.cfg c.relayOn marginCd
              watchdogCrashCounter := 0
              state := .run
              lastError := .ok }, .ok⟩

/-- The exits of `ctrl_update` from a controller whose filter holds `w`. -/
inductive UpdateExit (lut : DewpointLut) (p : Platform) (c : Controller) (w : List TempCd)
    (s : Sample) : CtrlStep → Prop where
  | locked (hlock : c.state = .safe ∨ c.powerIsDying = true) :
      UpdateExit lut p c w s ⟨p, { c with relayOn := c.cfg.relaySafeState }, .hw⟩
  | debounced (hlock : ¬ (c.state = .safe ∨ c.powerIsDying = true))
      (hs : sampleIsValid s = false)
      (hlt : c.sensorErrorStreak + 1 < c.cfg.faultThreshold) :
      UpdateExit lut p c w s
        ⟨p, { c with
              sampleCount := c.sampleCount + 1
              sensorErrorStreak := c.sensorErrorStreak + 1
              sensorOkStreak := 0
              lastError := .sensor }, .sensor⟩
  | faulted (hlock : ¬ (c.state = .safe ∨ c.powerIsDying = true))
      (hs : sampleIsValid s = false)
      (hge : c.cfg.faultThreshold ≤ c.sensorErrorStreak + 1) :
      UpdateExit lut p c w s
        ⟨p, { c with
              sampleCount := c.sampleCount + 1
              sensorErrorStreak := c.sensorErrorStreak + 1
              sensorOkStreak := 0
              lastError := .sensor
              state := .sensorFault
              faultCount := c.faultCount + 1
              relayOn := c.cfg.relaySafeState }, .sensor⟩
  | recovering (hlock : ¬ (c.state = .safe ∨ c.powerIsDying = true))
      (hs : sampleIsValid s = true)
      (hfault : c.state = .sensorFault ∨ c.state = .mathFault)
      (hlt : c.sensorOkStreak + 1 < c.cfg.recoveryThreshold) :
      UpdateExit lut p c w s
        ⟨p, { c with
              sampleCount := c.sampleCount + 1
              sensorErrorStreak := 0
              sensorOkStreak := c.sensorOkStreak + 1
              lastError := .notReady }, .notReady⟩
  | processed {r : CtrlStep} (hlock : ¬ (c.state = .safe ∨ c.powerIsDying = true))
      (hs : sampleIsValid s = true)
      (hready : (c.state = .sensorFault ∨ c.state = .mathFault) →
        c.cfg.recoveryThreshold ≤ c.sensorOkStreak + 1)
      (hp : ProcessExit lut p c w s r) : UpdateExit lut p c w s r

section Update

variable {c : Controller} {w : List TempCd} {s : Sample}

/-- A valid sample goes through the filter and the dew point without a numeric exit. -/
theorem ctrlProcessSample_exit (lut : DewpointLut) (p : Platform) (k : UInt8)
    (h : SensorWindow c.filter w) (hs : sampleIsValid s = true) :
    ∃ r, ctrlProcessSample lut p { c with
          sampleCount := c.sampleCount + 1
          sensorErrorStreak := 0
          sensorOkStreak := k } s = .ok r ∧
      ProcessExit lut p c w s r := by
  obtain ⟨-, htemp, -⟩ := (sampleIsValid_iff s).1 hs
  have hrange := h.push htemp
  have hwlen : w.length ≤ 5 := by
    rw [h.holds.length_eq]
    exact h.holds.count_le
  have hplen := length_pushWindow hwlen (by decide) s.tempCd
  obtain ⟨m, hm, hholds, havg, -, herr⟩ :=
    maUpdate_spec h.holds (fun y hy => (h.inRange y hy).summable5) htemp.summable5
  have hwin : SensorWindow m.filter (pushWindow 5 w s.tempCd) := ⟨hholds, hrange⟩
  have hne := pushWindow_ne_nil (n := 5) (by decide) w s.tempCd
  by_cases hfull : 5 ≤ (pushWindow 5 w s.tempCd).length
  · -- mean, dew point and margin are exact, which excludes the numeric exits
    rw [if_pos hfull] at herr
    have hmean : -4000 ≤ m.avg.toInt ∧ m.avg.toInt ≤ 8500 := havg ▸ windowMean_mem hne hrange
    obtain ⟨dew, hdew, hdv⟩ := dewpointCalcCd_spec lut s.rhCp hmean
    have hdmem := dewpointExact_mem (l := lnRhExact lut s.rhCp) hmean
    obtain ⟨margin, hmargin, hmv⟩ := subI32_spec (a := m.avg) (b := dew) ⟨by omega, by omega⟩
    refine ⟨_, ?_, .running m.filter m.avg dew margin hwin (by omega) havg hdv hmv⟩
    simp only [ctrlProcessSample, hm, checked_ok_bind, herr, hdew, hmargin, ctrlSwitchRelay_eq,
      ctrlClearCrashes_eq, checked_pure]
    rfl
  · rw [if_neg hfull] at herr
    refine ⟨_, ?_, .warming m.filter m.avg hwin (by omega) havg⟩
    simp only [ctrlProcessSample, hm, checked_ok_bind, herr, checked_pure]
    rfl

/-- From a controller whose filter holds a window of valid temperatures, an update never faults and
leaves by one of the listed exits. -/
theorem ctrlUpdate_exit (lut : DewpointLut) (p : Platform) (s : Sample)
    (h : SensorWindow c.filter w) :
    ∃ r, ctrlUpdate lut p c s = .ok r ∧ UpdateExit lut p c w s r := by
  by_cases hlock : c.state = .safe ∨ c.powerIsDying = true
  · exact ⟨_, if_pos hlock, .locked hlock⟩
  rw [ctrlUpdate, if_neg hlock]
  cases hs : sampleIsValid s with
  | false =>
      by_cases hlt : c.sensorErrorStreak + 1 < c.cfg.faultThreshold
      · refine ⟨_, ?_, .debounced hlock hs hlt⟩
        simp [ctrlRejectSample, UInt8.not_le.2 hlt]
      · have hge := UInt8.not_lt.1 hlt
        refine ⟨_, ?_, .faulted hlock hs hge⟩
        simp [ctrlRejectSample, ctrlSetRelay, hge]
  | true =>
      by_cases hfault : c.state = .sensorFault ∨ c.state = .mathFault
      · by_cases hlt : c.sensorOkStreak + 1 < c.cfg.recoveryThreshold
        · refine ⟨_, ?_, .recovering hlock hs hfault hlt⟩
          simp [hfault, hlt]
        · obtain ⟨r, hr, hp⟩ := ctrlProcessSample_exit lut p (c.sensorOkStreak + 1) h hs
          refine ⟨r, ?_, .processed hlock hs (fun _ => UInt8.not_lt.1 hlt) hp⟩
          simpa [hfault, hlt] using hr
      · obtain ⟨r, hr, hp⟩ := ctrlProcessSample_exit lut p c.sensorOkStreak h hs
        refine ⟨r, ?_, .processed hlock hs (fun hf => absurd hf hfault) hp⟩
        simpa [hfault] using hr

end Update

end ClimateNode.Core
