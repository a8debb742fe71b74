import ClimateNode.App.AppRuns

/-!
# The physical relay and the controller

Only `app_init` and `app_task` drive the output; `app_task` drives it when the controller's flag
differs from the shadow `relay_prev`. The three agree in every run as long as no operation
re-initialises a controller whose relay is on: `ctrl_init` clears the flag and leaves the output.
-/

set_option autoImplicit false

namespace ClimateNode.Application

open ClimateNode.Core ClimateNode.Service ClimateNode.Machine ClimateNode.Platforms

section Agreement

variable {F : Type}

/-- The value last passed to `platform_relay_set` is the controller's flag, and is what a read of
the relay register reports. -/
structure RelayAgrees (σ : AppSys F) : Prop where
  driven : σ.plat.relayCalls.head? = some σ.app.ctrl.relayOn
  reported : ∀ (n : Node F) (nowMs : UInt32), n.sys = σ →
    regValue (syncRegisters n nowMs).regs mbRelayState =
      some (if platformRelayGet σ.plat then 1 else 0)

/-- The register copies the controller's flag. -/
theorem regValue_mbRelayState (n : Node F) (nowMs : UInt32) :
    regValue (syncRegisters n nowMs).regs mbRelayState =
      some (if n.sys.app.ctrl.relayOn then 1 else 0) := rfl

theorem relayAgrees_of_driven {σ : AppSys F}
    (h : σ.plat.relayCalls.head? = some σ.app.ctrl.relayOn) : RelayAgrees σ := by
  refine ⟨h, fun n nowMs hn => ?_⟩
  rw [regValue_mbRelayState, hn, platformRelayGet, List.headD_eq_head?_getD, h,
    Option.getD_some]

/-- The invariant of the application: shadow, flag and output are the same value, and the safe state
is off. -/
structure RelayInv (σ : AppSys F) : Prop where
  ctrl : CtrlInv σ.app.ctrl
  safeOff : σ.app.ctrl.cfg.relaySafeState = false
  shadow : σ.app.relayPrev = σ.app.ctrl.relayOn
  driven : σ.plat.relayCalls.head? = some σ.app.ctrl.relayOn

theorem relayInv_appInit (d : FlashDriver F) (plat : Platform) (flash : F) :
    RelayInv (appInit d plat flash) where
  ctrl := ctrlInv_init _
  safeOff := rfl
  shadow := rfl
  driven := rfl

/-- An operation that re-initialises no controller with the relay on keeps the invariant. -/
theorem appStep_relayInv (lut : DewpointLut) (d : FlashDriver F) (σ : AppSys F) (op : AppOp)
    (h : RelayInv σ) (hop : ReinitsController d σ op → σ.app.ctrl.relayOn = false) :
    ∃ τ, appStep lut d σ op = .ok τ ∧ RelayInv τ := by
  obtain ⟨τ, hτ, hx, hinv⟩ := appStep_exit lut d op h.ctrl
  refine ⟨τ, hτ, ?_⟩
  cases hx with
  | idle nowMs read hdue => exact h
  | kept _ flash cfg hr => exact ⟨h.ctrl, h.safeOff, h.shadow, h.driven⟩
  | reinit _ flash cfg hr =>
      -- the relay was off, and `ctrl_init` leaves it off
      have hoff := hop hr
      exact ⟨hinv, rfl, h.shadow.trans hoff, h.driven.trans (congrArg some hoff)⟩
  | sampled nowMs read w r hdue hx =>
      obtain ⟨hcalls, hcfg⟩ := relayCalls_cfg_of_exit hx
      refine ⟨hinv, ?_, rfl, ?_⟩
      · show r.ctrl.cfg.relaySafeState = false
        rw [hcfg]
        exact h.safeOff
      · by_cases hrelay : r.ctrl.relayOn = σ.app.relayPrev
        · simp only [hrelay, ne_eq, not_true_eq_false, if_false]
          rw [hcalls, h.driven, h.shadow]
        · simp [hrelay]

/-- Re-initialising a controller with the relay on leaves the output on and clears the flag. -/
theorem not_relayAgrees_of_reinits (lut : DewpointLut) {d : FlashDriver F} {σ τ : AppSys F}
    {op : AppOp} (h : RelayInv σ) (hr : ReinitsController d σ op)
    (hon : σ.app.ctrl.relayOn = true) (hτ : appStep lut d σ op = .ok τ) : ¬ RelayAgrees τ := by
  obtain ⟨flash, cfg, heq⟩ := appStep_of_reinits lut hr
  rw [heq] at hτ
  cases hτ
  rintro ⟨hdriven, -⟩
  have hflag : some true = some false := by rw [← hon, ← h.driven]; exact hdriven
  cases hflag

/-- In every run from `app_init`, output and flag agree in every state exactly when no operation
re-initialises the controller while its relay is on. -/
theorem relay_agreement_iff (lut : DewpointLut) (d : FlashDriver F) (plat : Platform) (flash : F)
    (ops : List AppOp) :
    AlwaysAlong (appStep lut d) RelayAgrees (appInit d plat flash) ops ↔
      StepsMeet (appStep lut d)
        (fun σ op => ReinitsController d σ op → σ.app.ctrl.relayOn = false)
        (appInit d plat flash) ops := by
  apply alwaysAlong_iff_stepsMeet (I := RelayInv)
  · exact fun σ h => relayAgrees_of_driven h.driven
  · exact appStep_relayInv lut d
  · intro σ op τ h hbad hτ
    obtain ⟨hr, hon⟩ := Classical.not_imp.1 hbad
    exact not_relayAgrees_of_reinits lut h hr (by simpa using hon) hτ
  · exact relayInv_appInit d plat flash

end Agreement

/-- Five samples close to condensation, which switch the relay on, and a write of 900 to the
sample-period register. -/
def writeWhileOn : List AppOp :=
  [.task 0 (.ok, ⟨2000, 9500, 0, .valid⟩), .task 1000 (.ok, ⟨2000, 9500, 0, .valid⟩),
    .task 2000 (.ok, ⟨2000, 9500, 0, .valid⟩), .task 3000 (.ok, ⟨2000, 9500, 0, .valid⟩),
    .task 4000 (.ok, ⟨2000, 9500, 0, .valid⟩), .write mbCfgSampleMs 900]

/-- After the write the output is on and the flag is off. -/
theorem relay_disagrees_after_write :
    ¬ ∀ (F : Type) (lut : DewpointLut) (d : FlashDriver F) (plat : Platform) (flash : F)
      (ops : List AppOp), AlwaysAlong (appStep lut d) RelayAgrees (appInit d plat flash) ops := by
  intro h
  have hall := h Stm32f1Flash dewpointLnRhQ10 stm32f1Flash ⟨[], 0⟩ stm32f1Erased writeWhileOn
  obtain ⟨τ, hτ, hagrees⟩ := alwaysAlong_iff_prefix.1 hall _ (List.prefix_refl _)
  have hend : (run (appStep dewpointLnRhQ10 stm32f1Flash)
      (appInit stm32f1Flash ⟨[], 0⟩ stm32f1Erased) writeWhileOn).toOption.map
        (fun σ => (σ.plat.relayCalls.head?, σ.app.ctrl.relayOn)) = some (some true, false) := by
    decide +kernel
  rw [hτ] at hend
  injection hend with hpair
  injection hpair with hcall hflag
  have := hagrees.driven
  rw [hcall, hflag] at this
  cases this

end ClimateNode.Application
