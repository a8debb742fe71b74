import ClimateNode.Core.ControllerInvariant
import ClimateNode.Machine.WrapTime
import ClimateNode.Service.Storage

/-!
# The application

`app/app.c`: initialisation from the stored configuration, configuration updates, the sampling task
and the watchdog tickets. The sensor port is an input: a call of `appTask` is given what the port's
`read` function returns and leaves in the sample, should the task call it.

The middle part says what each function does to the state. A configuration update either stops
before the controller or replaces it by `ctrl_init` of the new margins and period (`AppliesConfig`,
`appUpdateConfig_of_applies`, `appUpdateConfig_of_not_applies`). A task call either returns before
the sensor or processes one sample (`appTask_notDue`, `appTask_due`).
-/

set_option autoImplicit false

namespace ClimateNode.Application

open ClimateNode.Core ClimateNode.Service ClimateNode.Machine

/-- `TICKET_CONTROL`. -/
def ticketControl : UInt32 := (1 : UInt32) <<< 0

/-- `TICKET_COMM`. -/
def ticketComm : UInt32 := (1 : UInt32) <<< 1

/-- `app_t`. -/
structure App where
  ctrl : Controller
  cfg : DeviceConfig
  nextSampleMs : UInt32
  relayPrev : Bool
  ticketMask : UInt32
  requiredTickets : UInt32
  deriving DecidableEq, Repr

/-- The application with its platform and flash. -/
structure AppSys (F : Type) where
  plat : Platform
  flash : F
  app : App

/-- The controller configuration that `app_init` and `app_apply_config` build. -/
def ctrlCfgOf (cfg : DeviceConfig) : ControllerConfig where
  dewMarginOnCd := cfg.dewMarginOnCd.toInt32
  dewMarginOffCd := cfg.dewMarginOffCd.toInt32
  samplePeriodMs := cfg.samplePeriodMs.toUInt32
  faultThreshold := 3
  recoveryThreshold := 3
  relaySafeState := false

section Driver

variable {F : Type} (d : FlashDriver F)

/-- The configuration `app_init` starts from. -/
def appLoadedCfg (flash : F) : DeviceConfig :=
  let r := storageLoad d flash
  if r.1 ≠ .ok then storageLoadDefaults else r.2

/-- `app_init`. -/
def appInit (plat : Platform) (flash : F) : AppSys F :=
  let cfg := appLoadedCfg d flash
  let ctrl := ctrlInit (some (ctrlCfgOf cfg))
  let app : App := {
    ctrl := ctrl
    cfg := cfg
    nextSampleMs := 0
    relayPrev := ctrl.relayOn
    ticketMask := 0
    requiredTickets := ticketControl ||| ticketComm }
  ⟨platformRelaySet plat app.relayPrev, flash, app⟩

/-- `app_apply_config`. -/
def appApplyConfig (app : App) : App := { app with ctrl := ctrlInit (some (ctrlCfgOf app.cfg)) }

/-- `app_update_config`. -/
def appUpdateConfig (σ : AppSys F) (newCfg : DeviceConfig) : Err × AppSys F :=
  if !storageValidate newCfg then (.invalidArg, σ)
  else
    -- the stored copy is replaced before the flash is written
    let app := { σ.app with cfg := newCfg }
    let r := storageSave d σ.flash app.cfg
    if r.1 ≠ .ok then (r.1, { σ with app := app, flash := r.2 })
    else (.ok, { σ with app := appApplyConfig app, flash := r.2 })

end Driver

/-! ## The sampling task -/

/-- `app_task` is due: it passes its own period gate. -/
def appDue (app : App) (nowMs : UInt32) : Bool := !decide ((nowMs - app.nextSampleMs).toInt32 < 0)

/-- The next due time that `app_task` stores. -/
def appNextSample (app : App) (nowMs : UInt32) : UInt32 :=
  let next := app.nextSampleMs + app.ctrl.cfg.samplePeriodMs
  if (next - nowMs).toInt32 < 0 then nowMs + app.ctrl.cfg.samplePeriodMs else next

/-- The sample `app_task` hands to the controller: invalid when the sensor reported an error. -/
def appSample (nowMs : UInt32) (read : Err × Sample) : Sample :=
  let s := if read.1 ≠ .ok then { read.2 with quality := .invalid } else read.2
  { s with timestampMs := nowMs }

/-- The relay mirroring at the end of `app_task`. -/
def appMirrorRelay (plat : Platform) (app : App) (relay : Bool) : Platform × App :=
  if relay ≠ app.relayPrev then (platformRelaySet plat relay, { app with relayPrev := relay })
  else (plat, app)

/-- What a call of `app_task` leaves. -/
structure AppTaskStep (F : Type) where
  sys : AppSys F
  err : Err
  processed : Bool

section Task

variable {F : Type}

/-- `app_task` once its period gate is passed. -/
def appProcess (lut : DewpointLut) (σ : AppSys F) (nowMs : UInt32) (read : Err × Sample) :
    Checked (AppTaskStep F) := do
  let app := { σ.app with nextSampleMs := appNextSample σ.app nowMs }
  let r ← ctrlUpdate lut σ.plat app.ctrl (appSample nowMs read)
  let app := { app with ctrl := r.ctrl }
  let m := appMirrorRelay r.plat app (ctrlRelayOn app.ctrl)
  pure ⟨{ σ with plat := m.1, app := m.2 }, r.err, true⟩

/-- `app_task`. -/
def appTask (lut : DewpointLut) (σ : AppSys F) (nowMs : UInt32) (read : Err × Sample) :
    Checked (AppTaskStep F) :=
  if appDue σ.app nowMs then appProcess lut σ nowMs read else .ok ⟨σ, .ok, false⟩

end Task

/-- `app_report_t`. -/
structure AppReport where
  state : CtrlState
  lastError : Err
  filteredTempCd : TempCd
  humidityCp : RhCp
  dewPointCd : TempCd
  relayOn : Bool
  sampleCount : UInt32
  faultCount : UInt32
  deriving DecidableEq, Repr

/-- `app_report`. -/
def appReport (app : App) : AppReport where
  state := app.ctrl.state
  lastError := app.ctrl.lastError
  filteredTempCd := app.ctrl.filteredTempCd
  humidityCp := app.ctrl.humidityCp
  dewPointCd := app.ctrl.dewPointCd
  relayOn := app.ctrl.relayOn
  sampleCount := app.ctrl.sampleCount
  faultCount := app.ctrl.faultCount

/-- `app_can_feed_watchdog`. -/
def appCanFeedWatchdog (app : App) : Bool :=
  app.ticketMask &&& app.requiredTickets == app.requiredTickets

/-- `app_clear_tickets`. -/
def appClearTickets (app : App) : App := { app with ticketMask := 0 }

/-- `app_mark_ticket`. -/
def appMarkTicket (app : App) (ticketId : UInt32) : App :=
  { app with ticketMask := app.ticketMask ||| ticketId }

/-! ## Configuration updates -/

section Update

variable {F : Type} (d : FlashDriver F)

@[simp] theorem appInit_cfg (plat : Platform) (flash : F) :
    (appInit d plat flash).app.cfg = appLoadedCfg d flash := rfl

@[simp] theorem appInit_flash (plat : Platform) (flash : F) :
    (appInit d plat flash).flash = flash := rfl

/-- The update with `newCfg` reaches the controller: the image is valid and the flash takes it. -/
def AppliesConfig (flash : F) (newCfg : DeviceConfig) : Prop :=
  storageValidate newCfg = true ∧ (d.write flash 0 newCfg).1 = .ok

instance (flash : F) (newCfg : DeviceConfig) : Decidable (AppliesConfig d flash newCfg) := by
  unfold AppliesConfig
  infer_instance

variable {d}

/-- An applied update replaces the configuration and re-initialises the controller with it. -/
theorem appUpdateConfig_of_applies {σ : AppSys F} {newCfg : DeviceConfig}
    (h : AppliesConfig d σ.flash newCfg) :
    appUpdateConfig d σ newCfg =
      (.ok, { σ with
        flash := (d.write σ.flash 0 newCfg).2
        app := { σ.app with cfg := newCfg, ctrl := ctrlInit (some (ctrlCfgOf newCfg)) } }) := by
  obtain ⟨hvalid, hwrite⟩ := h
  simp [appUpdateConfig, hvalid, storageSave_of_valid d σ.flash hvalid, hwrite, appApplyConfig]

/-- Any other update leaves the platform and everything of the application but its stored copy of
the configuration. -/
theorem appUpdateConfig_of_not_applies {σ : AppSys F} {newCfg : DeviceConfig}
    (h : ¬ AppliesConfig d σ.flash newCfg) :
    ∃ flash cfg, (appUpdateConfig d σ newCfg).2 =
      { σ with flash := flash, app := { σ.app with cfg := cfg } } := by
  by_cases hvalid : storageValidate newCfg = true
  · -- the flash refused the image, which is kept as the stored copy
    have hwrite : (d.write σ.flash 0 newCfg).1 ≠ .ok := fun hok => h ⟨hvalid, hok⟩
    refine ⟨(d.write σ.flash 0 newCfg).2, newCfg, ?_⟩
    simp [appUpdateConfig, hvalid, storageSave_of_valid d σ.flash hvalid, hwrite]
  · refine ⟨σ.flash, σ.app.cfg, ?_⟩
    simp [appUpdateConfig, hvalid]

/-- `app_update_config` returns `ERR_OK` exactly when the update reaches the controller. -/
theorem appUpdateConfig_eq_ok_iff {σ : AppSys F} {newCfg : DeviceConfig} :
    (appUpdateConfig d σ newCfg).1 = .ok ↔ AppliesConfig d σ.flash newCfg := by
  refine ⟨fun hok => ?_, fun h => by rw [appUpdateConfig_of_applies h]⟩
  by_contra h
  by_cases hvalid : storageValidate newCfg = true
  · have hwrite : (d.write σ.flash 0 newCfg).1 ≠ .ok := fun hok => h ⟨hvalid, hok⟩
    simp [appUpdateConfig, hvalid, storageSave_of_valid d σ.flash hvalid, hwrite] at hok
  · simp [appUpdateConfig, hvalid] at hok

end Update

/-! ## Task calls -/

section TaskFacts

variable {F : Type}

theorem appTask_notDue (lut : DewpointLut) {σ : AppSys F} {nowMs : UInt32} (read : Err × Sample)
    (h : appDue σ.app nowMs = false) : appTask lut σ nowMs read = .ok ⟨σ, .ok, false⟩ := by
  rw [appTask, if_neg (by simp [h])]

/-- A due call from a controller with the invariant processes one sample. -/
theorem appTask_due (lut : DewpointLut) {σ : AppSys F} {nowMs : UInt32} (read : Err × Sample)
    (hdue : appDue σ.app nowMs = true) (hinv : CtrlInv σ.app.ctrl) :
    ∃ w r, SensorWindow σ.app.ctrl.filter w ∧
      UpdateExit lut σ.plat σ.app.ctrl w (appSample nowMs read) r ∧ CtrlInv r.ctrl ∧
      appTask lut σ nowMs read =
        .ok ⟨{ σ with
            plat := if r.ctrl.relayOn ≠ σ.app.relayPrev then platformRelaySet r.plat r.ctrl.relayOn
              else r.plat
            app := { σ.app with
              ctrl := r.ctrl
              nextSampleMs := appNextSample σ.app nowMs
              relayPrev := r.ctrl.relayOn } }, r.err, true⟩ := by
  obtain ⟨w, r, hw, hr, hx, hinv'⟩ := ctrlUpdate_inv lut σ.plat (appSample nowMs read) hinv
  refine ⟨w, r, hw, hx, hinv', ?_⟩
  rw [appTask, if_pos hdue, appProcess]
  simp only [hr, checked_ok_bind, checked_pure, appMirrorRelay, ctrlRelayOn]
  by_cases hrelay : r.ctrl.relayOn = σ.app.relayPrev
  · simp [hrelay]
  · simp [hrelay]

/-- The gate is open when the due time has come. -/
theorem appDue_msAfter (app : App) {a nowMs : UInt32} {i j : Nat} (hi : i < 2147483648)
    (hj : j < 2147483648) (hnow : nowMs = msAfter a i) (hnext : app.nextSampleMs = msAfter a j) :
    appDue app nowMs = decide (j ≤ i) := by
  rw [appDue, hnow, hnext]
  simp only [msAfter_sub_neg_iff a hi hj, ← decide_not, Nat.not_lt]

/-- The next due time is one period later, or one period from now when that is in the past. -/
theorem appNextSample_msAfter {app : App} {a nowMs : UInt32} {i j p : Nat} (hi : i < 2147483648)
    (hj : j + p < 2147483648) (hnow : nowMs = msAfter a i) (hnext : app.nextSampleMs = msAfter a j)
    (hperiod : app.ctrl.cfg.samplePeriodMs.toNat = p) :
    appNextSample app nowMs =
      if j + p < i then msAfter a (i + p) else msAfter a (j + p) := by
  rw [appNextSample, hnext, hnow]
  simp only [msAfter_add_toUInt32, hperiod, msAfter_sub_neg_iff a hj hi]

end TaskFacts

end ClimateNode.Application
