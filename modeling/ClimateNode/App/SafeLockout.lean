import ClimateNode.App.AppRuns

/-!
# The safe lockout

The controller enters `SAFE` at the third watchdog boot and at the emergency shutdown. An update
leaves it there. A configuration that is applied afterwards does not: `app_apply_config` calls
`ctrl_init`, which starts again in `INIT`. The lockout therefore lasts exactly as long as no
operation re-initialises the controller.
-/

set_option autoImplicit false

namespace ClimateNode.Application

open ClimateNode.Core ClimateNode.Service ClimateNode.Machine ClimateNode.Platforms

/-- The two ways into `SAFE`. -/
inductive EntersSafe : Controller → Prop where
  | watchdog (p : Platform) (cfg : Option ControllerConfig)
      (h : (ctrlInitExtended p cfg .watchdog).2.state = .safe) :
      EntersSafe (ctrlInitExtended p cfg .watchdog).2
  | shutdown (p : Platform) (c : Controller) : EntersSafe (ctrlForceEmergencyShutdown p c).2

section Lockout

variable {F : Type}

/-- The controller is in `SAFE` with the relay in its safe state. -/
def SafeLocked (σ : AppSys F) : Prop :=
  σ.app.ctrl.state = .safe ∧ σ.app.ctrl.relayOn = σ.app.ctrl.cfg.relaySafeState

theorem EntersSafe.locked {c : Controller} (h : EntersSafe c) :
    c.state = .safe ∧ c.relayOn = c.cfg.relaySafeState := by
  cases h with
  | watchdog p cfg h =>
      refine ⟨h, ?_⟩
      rw [ctrlInitExtended_watchdog]
      rfl
  | shutdown p c => exact ⟨rfl, rfl⟩

/-- A task call keeps the lockout. -/
theorem appTask_safeLocked (lut : DewpointLut) {σ : AppSys F} (nowMs : UInt32)
    (read : Err × Sample) (h : SafeLocked σ) :
    ∃ r, appTask lut σ nowMs read = .ok r ∧ SafeLocked r.sys := by
  obtain ⟨hstate, hrelay⟩ := h
  cases hdue : appDue σ.app nowMs with
  | false => exact ⟨_, appTask_notDue lut read hdue, hstate, hrelay⟩
  | true =>
      -- the guard of the update returns before the sample is looked at
      have hlock : σ.app.ctrl.state = .safe ∨ σ.app.ctrl.powerIsDying = true := Or.inl hstate
      rw [appTask, if_pos hdue, appProcess, ctrlUpdate, if_pos hlock]
      refine ⟨_, rfl, ?_⟩
      simp only [appMirrorRelay]
      split
      · exact ⟨hstate, rfl⟩
      · exact ⟨hstate, rfl⟩

/-- An operation that does not re-initialise the controller keeps the lockout. -/
theorem appStep_safeLocked (lut : DewpointLut) (d : FlashDriver F) (σ : AppSys F) (op : AppOp)
    (h : SafeLocked σ) (hr : ¬ ReinitsController d σ op) :
    ∃ τ, appStep lut d σ op = .ok τ ∧ SafeLocked τ := by
  cases op with
  | task nowMs read =>
      obtain ⟨r, heq, hlocked⟩ := appTask_safeLocked lut nowMs read h
      exact ⟨r.sys, by rw [appStep, heq, checked_ok_bind, checked_pure], hlocked⟩
  | update newCfg =>
      obtain ⟨flash, cfg, heq⟩ := appStep_of_not_reinits lut σ _ (by rintro _ _ ⟨⟩) hr
      exact ⟨_, heq, h⟩
  | write regAddr value =>
      obtain ⟨flash, cfg, heq⟩ := appStep_of_not_reinits lut σ _ (by rintro _ _ ⟨⟩) hr
      exact ⟨_, heq, h⟩

/-- An operation that re-initialises the controller ends the lockout. -/
theorem not_safeLocked_of_reinits (lut : DewpointLut) {d : FlashDriver F} {σ τ : AppSys F}
    {op : AppOp} (hr : ReinitsController d σ op) (hτ : appStep lut d σ op = .ok τ) :
    ¬ SafeLocked τ := by
  obtain ⟨flash, cfg, heq⟩ := appStep_of_reinits lut hr
  rw [heq] at hτ
  cases hτ
  rintro ⟨hstate, -⟩
  cases hstate

/-- From a controller that has entered `SAFE`, whatever the rest of the application holds, the
lockout holds in every state along a run exactly when no operation of the run re-initialises the
controller. -/
theorem safe_lockout_iff (lut : DewpointLut) (d : FlashDriver F) (σ : AppSys F) (ops : List AppOp)
    (h : EntersSafe σ.app.ctrl) :
    AlwaysAlong (appStep lut d) SafeLocked σ ops ↔
      StepsMeet (appStep lut d) (fun σ op => ¬ ReinitsController d σ op) σ ops := by
  apply alwaysAlong_iff_stepsMeet (I := SafeLocked)
  · exact fun _ hs => hs
  · exact appStep_safeLocked lut d
  · intro s op s' _ hbad hs'
    exact not_safeLocked_of_reinits lut (not_not.1 hbad) hs'
  · exact h.locked

end Lockout

/-- The application after the emergency shutdown of a freshly started board. -/
def shutDownSys : AppSys Stm32f1Flash :=
  let σ := appInit stm32f1Flash ⟨[], 0⟩ stm32f1Erased
  let pc := ctrlForceEmergencyShutdown σ.plat σ.app.ctrl
  { σ with plat := pc.1, app := { σ.app with ctrl := pc.2 } }

theorem entersSafe_shutDownSys : EntersSafe shutDownSys.app.ctrl :=
  .shutdown (appInit stm32f1Flash ⟨[], 0⟩ stm32f1Erased).plat _

theorem safe_lockout_iff_taskCall :
    AlwaysAlong (appStep dewpointLnRhQ10 stm32f1Flash) SafeLocked shutDownSys
      [.task 0 (.ok, ⟨2000, 5000, 0, .valid⟩)] := by
  rw [safe_lockout_iff dewpointLnRhQ10 stm32f1Flash shutDownSys _ entersSafe_shutDownSys]
  exact ⟨id, fun _ _ => trivial⟩

/-- A write of 900 to the sample-period register ends the lockout. -/
theorem safe_lockout_ended_by_write :
    ¬ ∀ (F : Type) (lut : DewpointLut) (d : FlashDriver F) (σ : AppSys F) (ops : List AppOp),
      EntersSafe σ.app.ctrl → AlwaysAlong (appStep lut d) SafeLocked σ ops := by
  intro h
  obtain ⟨-, τ, hτ, hlocked⟩ := h Stm32f1Flash dewpointLnRhQ10 stm32f1Flash shutDownSys
    [.write mbCfgSampleMs 900] entersSafe_shutDownSys
  refine not_safeLocked_of_reinits dewpointLnRhQ10 ?_ hτ hlocked
  exact ⟨{ shutDownSys.app.cfg with samplePeriodMs := 900 }, rfl,
    storageValidate_storageFinalize _, rfl⟩

end ClimateNode.Application
