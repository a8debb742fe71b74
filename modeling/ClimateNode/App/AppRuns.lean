import ClimateNode.App.MainMcu
import ClimateNode.Machine.Runs

/-!
# Runs of the application

`AppOp` lists what reaches the application from outside: a task call, a configuration update and a
Modbus register write. `AppExit` says what one of them can do from a controller with the invariant.
A task call returns before the sensor or processes a sample. The other two either leave the
controller as it is or re-initialise it, and `ReinitsController` tells which.
-/

set_option autoImplicit false

namespace ClimateNode.Application

open ClimateNode.Core ClimateNode.Service ClimateNode.Machine

/-- An operation on the application. -/
inductive AppOp where
  | task (nowMs : UInt32) (read : Err × Sample)
  | update (newCfg : DeviceConfig)
  | write (regAddr value : UInt16)

section Step

variable {F : Type}

/-- One operation on the application. -/
def appStep (lut : DewpointLut) (d : FlashDriver F) (σ : AppSys F) : AppOp → Checked (AppSys F)
  | .task nowMs read => do
      let r ← appTask lut σ nowMs read
      pure r.sys
  | .update newCfg => .ok (appUpdateConfig d σ newCfg).2
  | .write regAddr value => .ok (applyModbusWriteToApp d σ regAddr value)

/-- The operation re-initialises the controller: it is an update, or a write to a configuration
register, whose image is valid and is taken by the flash. -/
def ReinitsController (d : FlashDriver F) (σ : AppSys F) : AppOp → Prop
  | .task _ _ => False
  | .update newCfg => AppliesConfig d σ.flash newCfg
  | .write regAddr value =>
      ∃ cfg, modbusWrittenConfig σ.app.cfg regAddr value = some cfg ∧
        AppliesConfig d σ.flash (storageFinalize cfg)

/-- What an operation leaves from a controller whose filter holds a window. -/
inductive AppExit (lut : DewpointLut) (d : FlashDriver F) (σ : AppSys F) :
    AppOp → AppSys F → Prop where
  | idle (nowMs : UInt32) (read : Err × Sample) (hdue : appDue σ.app nowMs = false) :
      AppExit lut d σ (.task nowMs read) σ
  | sampled (nowMs : UInt32) (read : Err × Sample) (w : List TempCd) (r : CtrlStep)
      (hdue : appDue σ.app nowMs = true)
      (hx : UpdateExit lut σ.plat σ.app.ctrl w (appSample nowMs read) r) :
      AppExit lut d σ (.task nowMs read)
        { σ with
          plat := if r.ctrl.relayOn ≠ σ.app.relayPrev then platformRelaySet r.plat r.ctrl.relayOn
            else r.plat
          app := { σ.app with
            ctrl := r.ctrl
            nextSampleMs := appNextSample σ.app nowMs
            relayPrev := r.ctrl.relayOn } }
  | kept (op : AppOp) (flash : F) (cfg : DeviceConfig) (hr : ¬ ReinitsController d σ op) :
      AppExit lut d σ op { σ with flash := flash, app := { σ.app with cfg := cfg } }
  | reinit (op : AppOp) (flash : F) (cfg : DeviceConfig) (hr : ReinitsController d σ op) :
      AppExit lut d σ op
        { σ with
          flash := flash
          app := { σ.app with cfg := cfg, ctrl := ctrlInit (some (ctrlCfgOf cfg)) } }

variable {d : FlashDriver F}

/-- An operation that re-initialises the controller replaces nothing else but the configuration and
the flash. -/
theorem appStep_of_reinits (lut : DewpointLut) {σ : AppSys F} {op : AppOp}
    (h : ReinitsController d σ op) :
    ∃ flash cfg, appStep lut d σ op = .ok { σ with
      flash := flash
      app := { σ.app with cfg := cfg, ctrl := ctrlInit (some (ctrlCfgOf cfg)) } } := by
  cases op with
  | task nowMs read => exact h.elim
  | update newCfg =>
      exact ⟨_, newCfg, by rw [appStep, appUpdateConfig_of_applies h]⟩
  | write regAddr value =>
      obtain ⟨cfg, hcfg, happ⟩ := h
      refine ⟨(d.write σ.flash 0 (storageFinalize cfg)).2, storageFinalize cfg, ?_⟩
      rw [appStep, applyModbusWriteToApp, hcfg]
      simp only [appUpdateConfig_of_applies happ]

/-- An update or a write that does not re-initialise the controller keeps all of the application but
its stored copy of the configuration. -/
theorem appStep_of_not_reinits (lut : DewpointLut) (σ : AppSys F) (op : AppOp)
    (hop : ∀ nowMs read, op ≠ .task nowMs read) (h : ¬ ReinitsController d σ op) :
    ∃ flash cfg, appStep lut d σ op =
      .ok { σ with flash := flash, app := { σ.app with cfg := cfg } } := by
  cases op with
  | task nowMs read => exact absurd rfl (hop nowMs read)
  | update newCfg =>
      obtain ⟨flash, cfg, heq⟩ := appUpdateConfig_of_not_applies h
      exact ⟨flash, cfg, by rw [appStep, heq]⟩
  | write regAddr value =>
      cases hcfg : modbusWrittenConfig σ.app.cfg regAddr value with
      | none =>
          -- no configuration register, or a period of zero
          refine ⟨σ.flash, σ.app.cfg, ?_⟩
          rw [appStep, applyModbusWriteToApp, hcfg]
      | some cfg =>
          have hnot : ¬ AppliesConfig d σ.flash (storageFinalize cfg) :=
            fun happ => h ⟨cfg, hcfg, happ⟩
          obtain ⟨flash, cfg', heq⟩ := appUpdateConfig_of_not_applies hnot
          refine ⟨flash, cfg', ?_⟩
          rw [appStep, applyModbusWriteToApp, hcfg]
          simp only [heq]

/-- From a controller with the invariant every operation returns, by one of the exits. -/
theorem appStep_exit (lut : DewpointLut) (d : FlashDriver F) {σ : AppSys F} (op : AppOp)
    (hinv : CtrlInv σ.app.ctrl) :
    ∃ τ, appStep lut d σ op = .ok τ ∧ AppExit lut d σ op τ ∧ CtrlInv τ.app.ctrl := by
  by_cases hr : ReinitsController d σ op
  · obtain ⟨flash, cfg, heq⟩ := appStep_of_reinits lut hr
    exact ⟨_, heq, .reinit op flash cfg hr, ctrlInv_init _⟩
  · cases op with
    | task nowMs read =>
        cases hdue : appDue σ.app nowMs with
        | false =>
            refine ⟨σ, ?_, .idle nowMs read hdue, hinv⟩
            rw [appStep, appTask_notDue lut read hdue, checked_ok_bind, checked_pure]
        | true =>
            obtain ⟨w, r, -, hx, hinv', heq⟩ := appTask_due lut read hdue hinv
            refine ⟨_, ?_, .sampled nowMs read w r hdue hx, hinv'⟩
            rw [appStep, heq, checked_ok_bind, checked_pure]
    | update newCfg =>
        obtain ⟨flash, cfg, heq⟩ := appStep_of_not_reinits lut σ _ (by rintro _ _ ⟨⟩) hr
        exact ⟨_, heq, .kept _ flash cfg hr, hinv⟩
    | write regAddr value =>
        obtain ⟨flash, cfg, heq⟩ := appStep_of_not_reinits lut σ _ (by rintro _ _ ⟨⟩) hr
        exact ⟨_, heq, .kept _ flash cfg hr, hinv⟩

end Step

end ClimateNode.Application
