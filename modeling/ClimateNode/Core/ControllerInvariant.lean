import ClimateNode.Core.Controller
import ClimateNode.Machine.Runs

/-!
# Runs of the controller

`CtrlOp` lists what can happen to a controller and its platform: an update, the emergency shutdown,
and both initialisations. `CtrlInv` is the invariant of every run. It has a clause for the filter,
one for the relay outside `RUN`, one for the numbers inside `RUN`, and two for the states that no
path enters. The initialisations establish it, the shutdown and every exit of an update keep it, and
`ctrlRun_inv` is the induction. The two results of the module read off the relay clause and the
absence of numeric faults.
-/

set_option autoImplicit false

namespace ClimateNode.Core

open ClimateNode.Machine

/-- A controller with its platform. -/
structure CtrlSys where
  plat : Platform
  ctrl : Controller
  deriving DecidableEq, Repr

/-- The two initialisations. The extended one finds `backup` in the backup register. -/
inductive CtrlBoot where
  | init (cfg : Option ControllerConfig)
  | initExtended (backup : UInt8) (cfg : Option ControllerConfig) (cause : ResetCause)
  deriving DecidableEq, Repr

/-- The controller after an initialisation on the platform `p`. -/
def CtrlBoot.start (p : Platform) : CtrlBoot → CtrlSys
  | .init cfg => ⟨p, ctrlInit cfg⟩
  | .initExtended backup cfg cause =>
      let pc := ctrlInitExtended { p with backupReg := backup } cfg cause
      ⟨pc.1, pc.2⟩

/-- What can happen to a controller. -/
inductive CtrlOp where
  | update (s : Sample)
  | forceShutdown
  | reinit (boot : CtrlBoot)
  deriving DecidableEq, Repr

/-- One operation on the controller. -/
def ctrlStep (lut : DewpointLut) (σ : CtrlSys) : CtrlOp → Checked CtrlSys
  | .update s => do
      let r ← ctrlUpdate lut σ.plat σ.ctrl s
      pure ⟨r.plat, r.ctrl⟩
  | .forceShutdown =>
      let pc := ctrlForceEmergencyShutdown σ.plat σ.ctrl
      .ok ⟨pc.1, pc.2⟩
  | .reinit boot => .ok (boot.start σ.plat)

/-- The numbers of a controller in `RUN`. -/
structure RunFacts (c : Controller) : Prop where
  notDying : c.powerIsDying = false
  full : c.filter.count = maFilterSize
  temp_mem : tempCdMin ≤ c.filteredTempCd ∧ c.filteredTempCd ≤ tempCdMax
  dew_mem : tempCdMin ≤ c.dewPointCd ∧ c.dewPointCd ≤ tempCdMax
  dew_le : c.dewPointCd ≤ c.filteredTempCd
  humidity_le : c.humidityCp ≤ rhCpMax

/-- The invariant of a controller. -/
structure CtrlInv (c : Controller) : Prop where
  window : ∃ w, SensorWindow c.filter w
  relaySafe : c.state ≠ .run → c.relayOn = c.cfg.relaySafeState
  runFacts : c.state = .run → RunFacts c
  notMathFault : c.state ≠ .mathFault
  dyingSafe : c.powerIsDying = true → c.state = .safe

/-- The numbers that a controller reports, in whatever state it is. -/
structure ReportInRange (c : Controller) : Prop where
  temp : InSensorRange c.filteredTempCd
  humidity_le : c.humidityCp.toNat ≤ 10000
  dew : InSensorRange c.dewPointCd

/-! ## The invariant along one operation -/

theorem ctrlInv_init (cfg : Option ControllerConfig) : CtrlInv (ctrlInit cfg) where
  window := ⟨[], sensorWindow_maInit⟩
  relaySafe := fun _ => rfl
  runFacts := nofun
  notMathFault := nofun
  dyingSafe := nofun

theorem ctrlInv_initExtended (p : Platform) (cfg : Option ControllerConfig) (cause : ResetCause) :
    CtrlInv (ctrlInitExtended p cfg cause).2 := by
  have hinit := ctrlInv_init cfg
  by_cases hw : cause = .watchdog
  · subst hw
    rw [ctrlInitExtended_watchdog]
    constructor
    · exact hinit.window
    · exact fun _ => rfl
    all_goals
      -- the state is `SAFE` or `WARMUP`
      by_cases h3 : p.backupReg + 1 ≥ 3
      · simp [h3, ctrlInit]
      · simp [h3, ctrlInit]
  · by_cases hp : cause = .powerOn
    · subst hp
      rw [ctrlInitExtended_powerOn]
      exact hinit
    · rw [ctrlInitExtended_other p cfg hw hp]
      exact hinit

theorem cfg_ctrlInitExtended (p : Platform) (cfg : Option ControllerConfig) (cause : ResetCause) :
    (ctrlInitExtended p cfg cause).2.cfg = ctrlEffectiveConfig (cfg.getD controllerDefaults) := by
  by_cases hw : cause = .watchdog
  · rw [hw, ctrlInitExtended_watchdog, ← cfg_ctrlInit]
  · by_cases hp : cause = .powerOn
    · rw [hp, ctrlInitExtended_powerOn, cfg_ctrlInit]
    · rw [ctrlInitExtended_other p cfg hw hp, cfg_ctrlInit]

theorem inSensorRange_zero : InSensorRange 0 := ⟨by decide, by decide⟩

theorem reportInRange_init (cfg : Option ControllerConfig) : ReportInRange (ctrlInit cfg) where
  temp := inSensorRange_zero
  humidity_le := Nat.zero_le _
  dew := inSensorRange_zero

theorem reportInRange_initExtended (p : Platform) (cfg : Option ControllerConfig)
    (cause : ResetCause) : ReportInRange (ctrlInitExtended p cfg cause).2 := by
  have hinit := reportInRange_init cfg
  by_cases hw : cause = .watchdog
  · rw [hw, ctrlInitExtended_watchdog]
    exact ⟨hinit.temp, hinit.humidity_le, hinit.dew⟩
  · by_cases hp : cause = .powerOn
    · rw [hp, ctrlInitExtended_powerOn]
      exact hinit
    · rw [ctrlInitExtended_other p cfg hw hp]
      exact hinit

theorem ctrlInv_start (p : Platform) (boot : CtrlBoot) : CtrlInv (boot.start p).ctrl := by
  cases boot with
  | init cfg => exact ctrlInv_init cfg
  | initExtended backup cfg cause => exact ctrlInv_initExtended _ cfg cause

theorem ctrlInv_forceShutdown (p : Platform) {c : Controller} (h : CtrlInv c) :
    CtrlInv (ctrlForceEmergencyShutdown p c).2 where
  window := h.window
  relaySafe := fun _ => rfl
  runFacts := nofun
  notMathFault := nofun
  dyingSafe := fun _ => rfl

section Exits

variable {lut : DewpointLut} {p : Platform} {c : Controller} {w : List TempCd} {s : Sample}
  {r : CtrlStep}

/-- The numbers of a controller that has just entered `RUN`. -/
theorem runFacts_of_running {f : MaFilter} {v : List TempCd} {avg dew : TempCd} {relayOn : Bool}
    (hdying : c.powerIsDying = false) (hs : sampleIsValid s = true) (hwin : SensorWindow f v)
    (hlen : v.length = 5) (havg : avg.toInt = windowMean v)
    (hdew : dew.toInt = dewpointExact avg.toInt (lnRhExact lut s.rhCp)) :
    RunFacts { ctrlFiltered c s f avg with
      dewPointCd := dew
      relayOn := relayOn
      watchdogCrashCounter := 0
      state := .run
      lastError := .ok } := by
  have hne : v ≠ [] := by
    rintro rfl
    cases hlen
  have hmean : -4000 ≤ avg.toInt ∧ avg.toInt ≤ 8500 := havg ▸ windowMean_mem hne hwin.inRange
  have hdmem := dewpointExact_mem (l := lnRhExact lut s.rhCp) hmean
  rw [← hdew] at hdmem
  obtain ⟨-, -, hrh⟩ := (sampleIsValid_iff s).1 hs
  refine ⟨hdying, ?_, ?_, ?_, ?_, ?_⟩
  · rw [← UInt8.toNat_inj]
    exact hwin.holds.length_eq.symm.trans hlen
  · exact ⟨Int32.le_iff_toInt_le.2 hmean.1, Int32.le_iff_toInt_le.2 hmean.2⟩
  · exact ⟨Int32.le_iff_toInt_le.2 hdmem.1,
      Int32.le_iff_toInt_le.2 (Int.le_trans hdmem.2 hmean.2)⟩
  · exact Int32.le_iff_toInt_le.2 hdmem.2
  · exact UInt32.le_iff_toNat_le.2 hrh

/-- Every exit of an update keeps the invariant. -/
theorem ctrlInv_exit (h : CtrlInv c) (hx : UpdateExit lut p c w s r) : CtrlInv r.ctrl := by
  have hnotDying : ¬ (c.state = .safe ∨ c.powerIsDying = true) → c.powerIsDying = false := by
    intro hlock
    cases hd : c.powerIsDying with
    | false => rfl
    | true => exact absurd (Or.inr hd) hlock
  cases hx with
  | locked hlock =>
      -- a dying supply is only ever found in `SAFE`
      have hsafe : c.state = .safe := hlock.elim id h.dyingSafe
      refine ⟨h.window, fun _ => rfl, fun hrun => ?_, h.notMathFault, h.dyingSafe⟩
      rw [hsafe] at hrun
      cases hrun
  | debounced hlock hs hlt =>
      -- the state is kept, possibly `RUN` with its numbers
      refine ⟨h.window, h.relaySafe, fun hrun => ?_, h.notMathFault, h.dyingSafe⟩
      obtain ⟨h₁, h₂, h₃, h₄, h₅, h₆⟩ := h.runFacts hrun
      exact ⟨h₁, h₂, h₃, h₄, h₅, h₆⟩
  | faulted hlock hs hge =>
      refine ⟨h.window, fun _ => rfl, nofun, nofun, ?_⟩
      exact fun hd => absurd (Or.inr hd) hlock
  | recovering hlock hs hfault hlt =>
      refine ⟨h.window, h.relaySafe, fun hrun => ?_, h.notMathFault, h.dyingSafe⟩
      obtain ⟨h₁, h₂, h₃, h₄, h₅, h₆⟩ := h.runFacts hrun
      exact ⟨h₁, h₂, h₃, h₄, h₅, h₆⟩
  | processed hlock hs hready hp =>
      cases hp with
      | warming f avg hwin hlen havg =>
          -- the relay is set to its safe state in `WARMUP`
          refine ⟨⟨_, hwin⟩, fun _ => rfl, nofun, nofun, ?_⟩
          exact fun hd => absurd (Or.inr hd) hlock
      | running f avg dew marginCd hwin hlen havg hdew hmargin =>
          refine ⟨⟨_, hwin⟩, fun hrun => absurd rfl hrun, fun _ => ?_, nofun, ?_⟩
          · exact runFacts_of_running (hnotDying hlock) hs hwin hlen havg hdew
          · exact fun hd => absurd (Or.inr hd) hlock

/-- Every exit of an update keeps the reported numbers in range. -/
theorem reportInRange_exit (h : ReportInRange c) (hx : UpdateExit lut p c w s r) :
    ReportInRange r.ctrl := by
  cases hx with
  | locked => exact ⟨h.temp, h.humidity_le, h.dew⟩
  | debounced => exact ⟨h.temp, h.humidity_le, h.dew⟩
  | faulted => exact ⟨h.temp, h.humidity_le, h.dew⟩
  | recovering => exact ⟨h.temp, h.humidity_le, h.dew⟩
  | processed hlock hs hready hp =>
      have hrh := ((sampleIsValid_iff s).1 hs).2.2
      have hne := pushWindow_ne_nil (n := 5) (by omega) w s.tempCd
      cases hp with
      | warming f avg hwin hlen havg =>
          -- the dew point is that of the last full window
          have hmean := windowMean_mem hne hwin.inRange
          rw [← havg] at hmean
          exact ⟨hmean, hrh, h.dew⟩
      | running f avg dew marginCd hwin hlen havg hdew hmargin =>
          have hmean := windowMean_mem hne hwin.inRange
          rw [← havg] at hmean
          have hdmem := dewpointExact_mem (l := lnRhExact lut s.rhCp) hmean
          rw [← hdew] at hdmem
          exact ⟨hmean, hrh, hdmem.1, Int.le_trans hdmem.2 hmean.2⟩

/-- No exit of an update returns a numeric error or a null-argument error. -/
theorem err_of_exit (hx : UpdateExit lut p c w s r) :
    r.err ≠ .math ∧ r.err ≠ .outOfRange ∧ r.err ≠ .invalidArg := by
  cases hx with
  | locked => exact ⟨nofun, nofun, nofun⟩
  | debounced => exact ⟨nofun, nofun, nofun⟩
  | faulted => exact ⟨nofun, nofun, nofun⟩
  | recovering => exact ⟨nofun, nofun, nofun⟩
  | processed hlock hs hready hp =>
      cases hp with
      | warming => exact ⟨nofun, nofun, nofun⟩
      | running => exact ⟨nofun, nofun, nofun⟩

/-- An update makes no relay call and keeps the configuration. -/
theorem relayCalls_cfg_of_exit (hx : UpdateExit lut p c w s r) :
    r.plat.relayCalls = p.relayCalls ∧ r.ctrl.cfg = c.cfg := by
  cases hx with
  | locked => exact ⟨rfl, rfl⟩
  | debounced => exact ⟨rfl, rfl⟩
  | faulted => exact ⟨rfl, rfl⟩
  | recovering => exact ⟨rfl, rfl⟩
  | processed hlock hs hready hp =>
      cases hp with
      | warming => exact ⟨rfl, rfl⟩
      | running =>
          refine ⟨?_, rfl⟩
          simp only [clearedPlatform]
          split
          · rfl
          · rfl

end Exits

/-- From the invariant an update returns, leaves by an exit and keeps the invariant. -/
theorem ctrlUpdate_inv (lut : DewpointLut) (p : Platform) {c : Controller} (s : Sample)
    (h : CtrlInv c) :
    ∃ w r, SensorWindow c.filter w ∧ ctrlUpdate lut p c s = .ok r ∧ UpdateExit lut p c w s r ∧
      CtrlInv r.ctrl := by
  obtain ⟨w, hw⟩ := h.window
  obtain ⟨r, hr, hx⟩ := ctrlUpdate_exit lut p s hw
  exact ⟨w, r, hw, hr, hx, ctrlInv_exit h hx⟩

/-! ## The invariant along a run -/

theorem ctrlStep_inv (lut : DewpointLut) (σ : CtrlSys) (op : CtrlOp) (h : CtrlInv σ.ctrl) :
    ∃ τ, ctrlStep lut σ op = .ok τ ∧ CtrlInv τ.ctrl := by
  cases op with
  | update s =>
      obtain ⟨w, r, -, hr, -, hinv⟩ := ctrlUpdate_inv lut σ.plat s h
      exact ⟨⟨r.plat, r.ctrl⟩, by simp [ctrlStep, hr], hinv⟩
  | forceShutdown => exact ⟨_, rfl, ctrlInv_forceShutdown σ.plat h⟩
  | reinit boot => exact ⟨_, rfl, ctrlInv_start σ.plat boot⟩

/-- Every run from an initialisation returns and ends in a controller with the invariant. -/
theorem ctrlRun_inv (lut : DewpointLut) (p : Platform) (boot : CtrlBoot) (ops : List CtrlOp) :
    ∃ τ, run (ctrlStep lut) (boot.start p) ops = .ok τ ∧ CtrlInv τ.ctrl :=
  run_of_invariant (I := fun σ => CtrlInv σ.ctrl) (A := fun _ => True) (ctrlInv_start p boot)
    (fun σ op h _ => ctrlStep_inv lut σ op h) ops fun _ _ => trivial

/-- Outside `RUN` the relay is in its safe state, and inside `RUN` the filter is full and the
numbers are in range, after every sequence of operations. -/
theorem relay_leaves_safe_only_in_run (lut : DewpointLut) (p : Platform) (boot : CtrlBoot)
    (ops : List CtrlOp) :
    ∃ τ, run (ctrlStep lut) (boot.start p) ops = .ok τ ∧
      (τ.ctrl.state ≠ .run → τ.ctrl.relayOn = τ.ctrl.cfg.relaySafeState) ∧
      (τ.ctrl.state = .run → RunFacts τ.ctrl) := by
  obtain ⟨τ, hτ, hinv⟩ := ctrlRun_inv lut p boot ops
  exact ⟨τ, hτ, hinv.relaySafe, hinv.runFacts⟩

/-- After every sequence of operations, an update with any sample returns without an `int32_t`
fault and without a numeric or null-argument error, and neither the state before nor the state after
is `MATH_FAULT`. -/
theorem numeric_faults_unreachable (lut : DewpointLut) (p : Platform) (boot : CtrlBoot)
    (ops : List CtrlOp) (s : Sample) :
    ∃ τ r, run (ctrlStep lut) (boot.start p) ops = .ok τ ∧
      ctrlUpdate lut τ.plat τ.ctrl s = .ok r ∧
      (r.err ≠ .math ∧ r.err ≠ .outOfRange ∧ r.err ≠ .invalidArg) ∧
      τ.ctrl.state ≠ .mathFault ∧ r.ctrl.state ≠ .mathFault := by
  obtain ⟨τ, hτ, hinv⟩ := ctrlRun_inv lut p boot ops
  obtain ⟨w, r, -, hr, hx, hinv'⟩ := ctrlUpdate_inv lut τ.plat s hinv
  exact ⟨τ, r, hτ, hr, err_of_exit hx, hinv.notMathFault, hinv'.notMathFault⟩

end ClimateNode.Core
