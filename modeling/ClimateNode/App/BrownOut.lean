import ClimateNode.App.AppRuns

/-!
# Brown-out during a task call

A task call in atomic steps: the period gate, the sensor read, `ctrl_update`, `ctrl_relay_on` into a
local, and the comparison that drives the output. The brown-out handler runs the emergency shutdown
between any two of them; configuration updates come from another task of the same loop, so only
between calls.

Without a shutdown in between, the steps of a call compute `appTask` (`advance_task`). Once the
controller is locked the local is always off, so after the shutdown the output can only be switched
on from a local read before it. That is the window `InWindow`, and nothing else switches the output
on as long as no configuration is applied (`brownOut_iff`).
-/

set_option autoImplicit false

namespace ClimateNode.Application

open ClimateNode.Core ClimateNode.Service ClimateNode.Machine ClimateNode.Platforms

/-- Where a task call is: the step it does next. -/
inductive TaskPhase where
  | idle
  | readSensor (nowMs : UInt32)
  | update (s : Sample)
  | relayOn
  | compare (relay : Bool)
  deriving DecidableEq, Repr

/-- The application inside a task call, and the number of relay calls before the first shutdown. -/
structure BrownSys (F : Type) where
  sys : AppSys F
  phase : TaskPhase
  mark : Option Nat

/-- The next step of the task call, a configuration update between calls, or the shutdown. -/
inductive BrownOp where
  | advance (nowMs : UInt32) (read : Err × Sample)
  | update (newCfg : DeviceConfig)
  | write (regAddr value : UInt16)
  | shutdown

section Machine

variable {F : Type}

/-- `PVD_IRQHandler` on the application's controller. -/
def brownShutdown (σ : BrownSys F) : BrownSys F :=
  let pc := ctrlForceEmergencyShutdown σ.sys.plat σ.sys.app.ctrl
  { σ with
    sys := { σ.sys with plat := pc.1, app := { σ.sys.app with ctrl := pc.2 } }
    mark := some (σ.mark.getD σ.sys.plat.relayCalls.length) }

/-- The next atomic step of `app_task`. -/
def brownAdvance (lut : DewpointLut) (σ : BrownSys F) (nowMs : UInt32) (read : Err × Sample) :
    Checked (BrownSys F) :=
  match σ.phase with
  | .idle =>
      if appDue σ.sys.app nowMs then
        let app := { σ.sys.app with nextSampleMs := appNextSample σ.sys.app nowMs }
        .ok { σ with sys := { σ.sys with app := app }, phase := .readSensor nowMs }
      else .ok σ
  | .readSensor startMs => .ok { σ with phase := .update (appSample startMs read) }
  | .update s => do
      let r ← ctrlUpdate lut σ.sys.plat σ.sys.app.ctrl s
      let app := { σ.sys.app with ctrl := r.ctrl }
      pure { σ with sys := { σ.sys with plat := r.plat, app := app }, phase := .relayOn }
  | .relayOn => .ok { σ with phase := .compare (ctrlRelayOn σ.sys.app.ctrl) }
  | .compare relay =>
      let m := appMirrorRelay σ.sys.plat σ.sys.app relay
      .ok { σ with sys := { σ.sys with plat := m.1, app := m.2 }, phase := .idle }

/-- One step of the machine. -/
def brownStep (lut : DewpointLut) (d : FlashDriver F) (σ : BrownSys F) :
    BrownOp → Checked (BrownSys F)
  | .advance nowMs read => brownAdvance lut σ nowMs read
  | .update newCfg =>
      if σ.phase = .idle then .ok { σ with sys := (appUpdateConfig d σ.sys newCfg).2 } else .ok σ
  | .write regAddr value =>
      if σ.phase = .idle then .ok { σ with sys := applyModbusWriteToApp d σ.sys regAddr value }
      else .ok σ
  | .shutdown => .ok (brownShutdown σ)

/-- The machine after `app_init`. -/
def brownStart (d : FlashDriver F) (plat : Platform) (flash : F) : BrownSys F :=
  ⟨appInit d plat flash, .idle, none⟩

/-- The five steps of a due call compute `app_task`. -/
theorem advance_task (lut : DewpointLut) (d : FlashDriver F) {σ : AppSys F} {nowMs : UInt32}
    {read : Err × Sample} {r : AppTaskStep F} (mark : Option Nat) (hdue : appDue σ.app nowMs = true)
    (hr : appTask lut σ nowMs read = .ok r) :
    run (brownStep lut d) ⟨σ, .idle, mark⟩ (List.replicate 5 (.advance nowMs read)) =
      .ok ⟨r.sys, .idle, mark⟩ := by
  rw [appTask, if_pos hdue, appProcess] at hr
  obtain ⟨u, hu, hr⟩ := checked_bind_eq_ok hr
  cases hr
  -- the gate and the update are the two steps that depend on the state
  have hgate : brownStep lut d ⟨σ, .idle, mark⟩ (.advance nowMs read) =
      .ok ⟨{ σ with app := { σ.app with nextSampleMs := appNextSample σ.app nowMs } },
        .readSensor nowMs, mark⟩ := by
    simp only [brownStep, brownAdvance, if_pos hdue]
  have hupdate : brownStep lut d
      ⟨{ σ with app := { σ.app with nextSampleMs := appNextSample σ.app nowMs } },
        .update (appSample nowMs read), mark⟩ (.advance nowMs read) =
      .ok ⟨{ σ with
          plat := u.plat
          app := { σ.app with nextSampleMs := appNextSample σ.app nowMs, ctrl := u.ctrl } },
        .relayOn, mark⟩ := by
    simp only [brownStep, brownAdvance, hu, checked_ok_bind, checked_pure]
  show run (brownStep lut d) _ [_, _, _, _, _] = _
  rw [run_cons_ok hgate, run_cons_ok rfl, run_cons_ok hupdate, run_cons_ok rfl, run_cons_ok rfl,
    run_nil]

/-! ## After the shutdown -/

/-- The relay calls after the first `k`, newest first. -/
def callsAfter (calls : List Bool) (k : Nat) : List Bool := calls.take (calls.length - k)

theorem callsAfter_cons {calls : List Bool} {k : Nat} (h : k ≤ calls.length) (on : Bool) :
    callsAfter (on :: calls) k = on :: callsAfter calls k := by
  rw [callsAfter, callsAfter, List.length_cons, Nat.sub_add_comm h, List.take_succ_cons]

/-- Since the shutdown the output was never switched on, and it was last set to the safe state. -/
def Deenergised (σ : BrownSys F) : Prop :=
  ∀ k, σ.mark = some k →
    true ∉ callsAfter σ.sys.plat.relayCalls k ∧ σ.sys.plat.relayCalls.head? = some false

/-- The task call has read a relay that is on into its local, and is about to switch the output
on. -/
def InWindow (σ : BrownSys F) : Prop :=
  σ.phase = .compare true ∧ σ.sys.app.relayPrev = false

/-- The operation is a configuration update that re-initialises the controller. -/
def BrownReinits (d : FlashDriver F) (σ : BrownSys F) : BrownOp → Prop
  | .advance _ _ => False
  | .update newCfg => σ.phase = .idle ∧ ReinitsController d σ.sys (.update newCfg)
  | .write regAddr value => σ.phase = .idle ∧ ReinitsController d σ.sys (.write regAddr value)
  | .shutdown => False

/-- The invariant after a shutdown outside the window: the controller is locked with the relay off,
and so is every local still to be compared. -/
structure DownInv (σ : BrownSys F) : Prop where
  locked : σ.sys.app.ctrl.state = .safe
  safeOff : σ.sys.app.ctrl.cfg.relaySafeState = false
  off : σ.sys.app.ctrl.relayOn = false
  outside : ¬ InWindow σ
  calls : ∃ k, σ.mark = some k ∧ k ≤ σ.sys.plat.relayCalls.length ∧
    true ∉ callsAfter σ.sys.plat.relayCalls k
  last : σ.sys.plat.relayCalls.head? = some false

theorem DownInv.deenergised {σ : BrownSys F} (h : DownInv σ) : Deenergised σ := by
  intro k hk
  obtain ⟨k', hk', -, hcalls⟩ := h.calls
  rw [hk] at hk'
  cases hk'
  exact ⟨hcalls, h.last⟩

/-- Switching the output off keeps the clause about the calls. -/
theorem calls_relaySet_false {p : Platform} {mark : Option Nat}
    (h : ∃ k, mark = some k ∧ k ≤ p.relayCalls.length ∧ true ∉ callsAfter p.relayCalls k) :
    ∃ k, mark = some k ∧ k ≤ (platformRelaySet p false).relayCalls.length ∧
      true ∉ callsAfter (platformRelaySet p false).relayCalls k := by
  obtain ⟨k, hmark, hle, hcalls⟩ := h
  refine ⟨k, hmark, Nat.le_succ_of_le hle, ?_⟩
  rw [relayCalls_platformRelaySet, callsAfter_cons hle]
  rintro (_ | ⟨_, hmem⟩)
  exact hcalls hmem

/-- Every atomic step of `app_task` keeps the invariant. -/
theorem brownAdvance_downInv (lut : DewpointLut) (σ : BrownSys F) (nowMs : UInt32)
    (read : Err × Sample) (h : DownInv σ) :
    ∃ τ, brownAdvance lut σ nowMs read = .ok τ ∧ DownInv τ := by
  rw [brownAdvance]
  have hcompare := h.outside
  cases hphase : σ.phase with
  | idle =>
      cases hdue : appDue σ.sys.app nowMs with
      | false => exact ⟨σ, rfl, h⟩
      | true => exact ⟨_, rfl, h.locked, h.safeOff, h.off, by rintro ⟨⟨⟩, -⟩, h.calls, h.last⟩
  | readSensor startMs =>
      exact ⟨_, rfl, h.locked, h.safeOff, h.off, by rintro ⟨⟨⟩, -⟩, h.calls, h.last⟩
  | update s =>
      -- the guard of the update returns, and sets the relay to its safe state again
      have hlock : σ.sys.app.ctrl.state = .safe ∨ σ.sys.app.ctrl.powerIsDying = true :=
        Or.inl h.locked
      simp only [ctrlUpdate, if_pos hlock, checked_ok_bind, checked_pure]
      exact ⟨_, rfl, h.locked, h.safeOff, h.safeOff, by rintro ⟨⟨⟩, -⟩, h.calls, h.last⟩
  | relayOn =>
      -- the local is the flag of a locked controller, which is off
      refine ⟨_, rfl, h.locked, h.safeOff, h.off, ?_, h.calls, h.last⟩
      rintro ⟨hlocal, -⟩
      injection hlocal with hlocal
      rw [ctrlRelayOn, h.off] at hlocal
      cases hlocal
  | compare relay =>
      cases hshadow : σ.sys.app.relayPrev with
      | false =>
          cases relay with
          | true =>
              -- this is the window
              exact absurd ⟨hphase, hshadow⟩ hcompare
          | false =>
              simp only [appMirrorRelay, hshadow]
              exact ⟨_, rfl, h.locked, h.safeOff, h.off, by rintro ⟨⟨⟩, -⟩, h.calls, h.last⟩
      | true =>
          cases relay with
          | true =>
              simp only [appMirrorRelay, hshadow]
              exact ⟨_, rfl, h.locked, h.safeOff, h.off, by rintro ⟨⟨⟩, -⟩, h.calls, h.last⟩
          | false =>
              simp only [appMirrorRelay, hshadow]
              exact ⟨_, rfl, h.locked, h.safeOff, h.off, by rintro ⟨⟨⟩, -⟩,
                calls_relaySet_false h.calls, rfl⟩

/-- Every step but a re-initialisation keeps the invariant. -/
theorem brownStep_downInv (lut : DewpointLut) (d : FlashDriver F) (σ : BrownSys F) (op : BrownOp)
    (h : DownInv σ) (hop : ¬ BrownReinits d σ op) :
    ∃ τ, brownStep lut d σ op = .ok τ ∧ DownInv τ := by
  cases op with
  | shutdown =>
      refine ⟨_, rfl, rfl, h.safeOff, h.safeOff, h.outside, ?_, ?_⟩
      · obtain ⟨k, hk, hrest⟩ := h.calls
        have hoff : (ctrlForceEmergencyShutdown σ.sys.plat σ.sys.app.ctrl).1 =
            platformRelaySet σ.sys.plat false :=
          congrArg (platformRelaySet σ.sys.plat) h.safeOff
        simp only [brownShutdown, hk, Option.getD_some, hoff]
        exact calls_relaySet_false ⟨k, rfl, hrest⟩
      · exact congrArg some h.safeOff
  | update newCfg =>
      by_cases hidle : σ.phase = .idle
      · obtain ⟨flash, cfg, heq⟩ := appUpdateConfig_of_not_applies fun ha => hop ⟨hidle, ha⟩
        refine ⟨{ σ with sys := (appUpdateConfig d σ.sys newCfg).2 }, if_pos hidle, ?_⟩
        rw [heq]
        exact ⟨h.locked, h.safeOff, h.off, h.outside, h.calls, h.last⟩
      · exact ⟨σ, if_neg hidle, h⟩
  | write regAddr value =>
      by_cases hidle : σ.phase = .idle
      · obtain ⟨flash, cfg, heq⟩ := appStep_of_not_reinits lut σ.sys (.write regAddr value)
          (by rintro _ _ ⟨⟩) fun ha => hop ⟨hidle, ha⟩
        rw [appStep] at heq
        injection heq with heq
        refine ⟨{ σ with sys := applyModbusWriteToApp d σ.sys regAddr value }, if_pos hidle, ?_⟩
        rw [heq]
        exact ⟨h.locked, h.safeOff, h.off, h.outside, h.calls, h.last⟩
      · exact ⟨σ, if_neg hidle, h⟩
  | advance nowMs read => exact brownAdvance_downInv lut σ nowMs read h

/-! ## The shutdown -/

/-- The invariant before the shutdown. -/
structure UpInv (σ : BrownSys F) : Prop where
  ctrl : CtrlInv σ.sys.app.ctrl
  safeOff : σ.sys.app.ctrl.cfg.relaySafeState = false
  up : σ.mark = none

theorem upInv_brownStart (d : FlashDriver F) (plat : Platform) (flash : F) :
    UpInv (brownStart d plat flash) := ⟨ctrlInv_init _, rfl, rfl⟩

/-- A configuration operation keeps the invariant and the safe state off. -/
theorem appStep_safeOff (lut : DewpointLut) (d : FlashDriver F) {σ τ : AppSys F} (op : AppOp)
    (hinv : CtrlInv σ.app.ctrl) (hoff : σ.app.ctrl.cfg.relaySafeState = false)
    (hτ : appStep lut d σ op = .ok τ) :
    CtrlInv τ.app.ctrl ∧ τ.app.ctrl.cfg.relaySafeState = false := by
  obtain ⟨τ', hτ', hx, hinv'⟩ := appStep_exit lut d op hinv
  rw [hτ'] at hτ
  cases hτ
  refine ⟨hinv', ?_⟩
  cases hx with
  | idle nowMs read hdue => exact hoff
  | kept _ flash cfg hr => exact hoff
  | reinit _ flash cfg hr => rfl
  | sampled nowMs read w r hdue hx =>
      show r.ctrl.cfg.relaySafeState = false
      rw [(relayCalls_cfg_of_exit hx).2]
      exact hoff

theorem brownAdvance_upInv (lut : DewpointLut) (σ : BrownSys F) (nowMs : UInt32)
    (read : Err × Sample) (h : UpInv σ) :
    ∃ τ, brownAdvance lut σ nowMs read = .ok τ ∧ UpInv τ := by
  rw [brownAdvance]
  cases hphase : σ.phase with
  | idle =>
      cases hdue : appDue σ.sys.app nowMs with
      | false => exact ⟨σ, rfl, h⟩
      | true => exact ⟨_, rfl, h.ctrl, h.safeOff, h.up⟩
  | readSensor startMs => exact ⟨_, rfl, h.ctrl, h.safeOff, h.up⟩
  | relayOn => exact ⟨_, rfl, h.ctrl, h.safeOff, h.up⟩
  | update s =>
      obtain ⟨w, r, -, hr, hx, hinv⟩ := ctrlUpdate_inv lut σ.sys.plat s h.ctrl
      simp only [hr, checked_ok_bind, checked_pure]
      refine ⟨_, rfl, hinv, ?_, h.up⟩
      show r.ctrl.cfg.relaySafeState = false
      rw [(relayCalls_cfg_of_exit hx).2]
      exact h.safeOff
  | compare relay =>
      by_cases hrelay : relay = σ.sys.app.relayPrev
      · simp only [appMirrorRelay, hrelay, ne_eq, not_true_eq_false, if_false]
        exact ⟨_, rfl, h.ctrl, h.safeOff, h.up⟩
      · simp only [appMirrorRelay, ne_eq, hrelay, not_false_eq_true, if_true]
        exact ⟨_, rfl, h.ctrl, h.safeOff, h.up⟩

theorem brownStep_upInv (lut : DewpointLut) (d : FlashDriver F) (σ : BrownSys F) (op : BrownOp)
    (h : UpInv σ) (hop : op ≠ .shutdown) : ∃ τ, brownStep lut d σ op = .ok τ ∧ UpInv τ := by
  cases op with
  | shutdown => exact absurd rfl hop
  | update newCfg =>
      by_cases hidle : σ.phase = .idle
      · obtain ⟨hinv, hoff⟩ := appStep_safeOff lut d (.update newCfg) h.ctrl h.safeOff rfl
        exact ⟨_, if_pos hidle, hinv, hoff, h.up⟩
      · exact ⟨σ, if_neg hidle, h⟩
  | write regAddr value =>
      by_cases hidle : σ.phase = .idle
      · obtain ⟨hinv, hoff⟩ := appStep_safeOff lut d (.write regAddr value) h.ctrl h.safeOff rfl
        exact ⟨_, if_pos hidle, hinv, hoff, h.up⟩
      · exact ⟨σ, if_neg hidle, h⟩
  | advance nowMs read => exact brownAdvance_upInv lut σ nowMs read h

/-- A shutdown outside the window establishes the invariant after it. -/
theorem downInv_brownShutdown {σ : BrownSys F} (h : UpInv σ) (hout : ¬ InWindow σ) :
    DownInv (brownShutdown σ) := by
  have hcalls : (brownShutdown σ).sys.plat.relayCalls = false :: σ.sys.plat.relayCalls :=
    congrArg (· :: σ.sys.plat.relayCalls) h.safeOff
  refine ⟨rfl, h.safeOff, h.safeOff, hout, ⟨σ.sys.plat.relayCalls.length, ?_, ?_, ?_⟩, ?_⟩
  · simp only [brownShutdown, h.up, Option.getD_none]
  · rw [hcalls]
    exact Nat.le_succ _
  · rw [hcalls, callsAfter_cons (Nat.le_refl _), callsAfter, Nat.sub_self, List.take_zero]
    decide
  · rw [hcalls, List.head?_cons]

/-- After a shutdown in the window the next step of the call switches the output on. -/
theorem not_deenergised_of_window (lut : DewpointLut) (d : FlashDriver F) {σ : BrownSys F}
    (h : UpInv σ) (hwin : InWindow σ) (nowMs : UInt32) (read : Err × Sample) :
    ∃ τ, brownStep lut d (brownShutdown σ) (.advance nowMs read) = .ok τ ∧ ¬ Deenergised τ := by
  obtain ⟨hphase, hshadow⟩ := hwin
  have hphase' : (brownShutdown σ).phase = .compare true := hphase
  have hshadow' : (brownShutdown σ).sys.app.relayPrev = false := hshadow
  have hmark : (brownShutdown σ).mark = some σ.sys.plat.relayCalls.length := by
    simp only [brownShutdown, h.up, Option.getD_none]
  rw [brownStep, brownAdvance, hphase']
  simp only [appMirrorRelay, hshadow']
  refine ⟨_, rfl, fun hde => ?_⟩
  have hlast := (hde _ hmark).2
  cases hlast

/-- From every state before the shutdown: whatever follows it, short of an applied configuration,
the output stays off, exactly when the shutdown is not in the window. -/
theorem brownOut_iff (lut : DewpointLut) (d : FlashDriver F) (plat : Platform) (flash : F)
    (pre : List BrownOp) (σ : BrownSys F) (hpre : ∀ op ∈ pre, op ≠ .shutdown)
    (hσ : run (brownStep lut d) (brownStart d plat flash) pre = .ok σ) :
    (∀ post, StepsMeet (brownStep lut d) (fun τ op => ¬ BrownReinits d τ op) (brownShutdown σ)
        post →
      AlwaysAlong (brownStep lut d) Deenergised (brownShutdown σ) post) ↔ ¬ InWindow σ := by
  obtain ⟨σ', hσ', hup⟩ :=
    run_of_invariant (upInv_brownStart d plat flash) (brownStep_upInv lut d) pre hpre
  rw [hσ] at hσ'
  cases hσ'
  constructor
  · intro hall hwin
    -- one more step of the call is enough
    obtain ⟨τ, hτ, hbad⟩ :=
      not_deenergised_of_window lut d hup hwin 0 (.ok, ⟨0, 0, 0, .invalid⟩)
    obtain ⟨-, τ', hτ', hde⟩ := hall [.advance 0 (.ok, ⟨0, 0, 0, .invalid⟩)]
      ⟨id, fun _ _ => trivial⟩
    rw [hτ] at hτ'
    cases hτ'
    exact hbad hde
  · intro hout post hpost
    exact alwaysAlong_of_stepsMeet (fun _ h => h.deenergised) (brownStep_downInv lut d)
      (downInv_brownShutdown hup hout) hpost

end Machine

/-- Four task calls close to condensation, and the fifth up to the comparison. -/
def upToComparison : List BrownOp :=
  List.replicate 5 (.advance 0 (.ok, ⟨2000, 9500, 0, .valid⟩)) ++
    List.replicate 5 (.advance 1000 (.ok, ⟨2000, 9500, 0, .valid⟩)) ++
    List.replicate 5 (.advance 2000 (.ok, ⟨2000, 9500, 0, .valid⟩)) ++
    List.replicate 5 (.advance 3000 (.ok, ⟨2000, 9500, 0, .valid⟩)) ++
    List.replicate 4 (.advance 4000 (.ok, ⟨2000, 9500, 0, .valid⟩))

theorem advance_of_mem_upToComparison {op : BrownOp} (hop : op ∈ upToComparison) :
    ∃ nowMs read, op = .advance nowMs read := by
  simp only [upToComparison, List.mem_append, List.mem_replicate] at hop
  rcases hop with (((⟨-, rfl⟩ | ⟨-, rfl⟩) | ⟨-, rfl⟩) | ⟨-, rfl⟩) | ⟨-, rfl⟩ <;>
    exact ⟨_, _, rfl⟩

theorem ne_shutdown_of_mem_upToComparison {op : BrownOp} (hop : op ∈ upToComparison) :
    op ≠ .shutdown := by
  rintro rfl
  obtain ⟨nowMs, read, heq⟩ := advance_of_mem_upToComparison hop
  cases heq

/-- A shutdown one step earlier, when the controller has decided to switch on and the call has not
read it yet: the rest of the call and the next one leave the output off. -/
theorem brownOut_iff_midCall :
    ∃ σ, run (brownStep dewpointLnRhQ10 stm32f1Flash)
        (brownStart stm32f1Flash ⟨[], 0⟩ stm32f1Erased) upToComparison.dropLast = .ok σ ∧
      σ.phase = .relayOn ∧ σ.sys.app.ctrl.relayOn = true ∧
      AlwaysAlong (brownStep dewpointLnRhQ10 stm32f1Flash) Deenergised (brownShutdown σ)
        (List.replicate 2 (.advance 4000 (.ok, ⟨2000, 9500, 0, .valid⟩)) ++
          List.replicate 5 (.advance 5000 (.ok, ⟨2000, 9500, 0, .valid⟩))) := by
  have hpre : ∀ op ∈ upToComparison.dropLast, op ≠ .shutdown := fun op hop =>
    ne_shutdown_of_mem_upToComparison (List.dropLast_subset _ hop)
  obtain ⟨σ, hσ, -⟩ := run_of_invariant (upInv_brownStart stm32f1Flash ⟨[], 0⟩ stm32f1Erased)
    (brownStep_upInv dewpointLnRhQ10 stm32f1Flash) upToComparison.dropLast hpre
  have hend : (run (brownStep dewpointLnRhQ10 stm32f1Flash)
      (brownStart stm32f1Flash ⟨[], 0⟩ stm32f1Erased) upToComparison.dropLast).toOption.map
        (fun σ => (σ.phase, σ.sys.app.ctrl.relayOn)) = some (.relayOn, true) := by
    decide +kernel
  rw [hσ] at hend
  obtain ⟨hphase, hrelay⟩ := Prod.mk.inj (Option.some.inj hend)
  refine ⟨σ, hσ, hphase, hrelay, ?_⟩
  -- the local of the call does not exist yet, so the shutdown is not in the window
  have hwindow : ¬ InWindow σ := by
    rintro ⟨hcompare, -⟩
    rw [hphase] at hcompare
    cases hcompare
  apply (brownOut_iff dewpointLnRhQ10 stm32f1Flash ⟨[], 0⟩ stm32f1Erased _ σ hpre hσ).2 hwindow
  apply stepsMeet_of_forall_mem
  intro τ op hop
  -- task calls apply no configuration
  rcases List.mem_append.1 hop with hop | hop
  · rw [List.eq_of_mem_replicate hop]
    exact id
  · rw [List.eq_of_mem_replicate hop]
    exact id

/-- A shutdown before that comparison: the comparison switches the output on. -/
theorem brownOut_reenergised :
    ¬ ∀ (F : Type) (lut : DewpointLut) (d : FlashDriver F) (plat : Platform) (flash : F)
      (pre post : List BrownOp) (σ : BrownSys F),
      (∀ op ∈ pre, ∃ nowMs read, op = .advance nowMs read) →
      (∀ op ∈ post, ∃ nowMs read, op = .advance nowMs read) →
      run (brownStep lut d) (brownStart d plat flash) pre = .ok σ →
      AlwaysAlong (brownStep lut d) Deenergised (brownShutdown σ) post := by
  intro h
  obtain ⟨σ, hσ, hup⟩ := run_of_invariant (upInv_brownStart stm32f1Flash ⟨[], 0⟩ stm32f1Erased)
    (brownStep_upInv dewpointLnRhQ10 stm32f1Flash) upToComparison
    fun op => ne_shutdown_of_mem_upToComparison
  have hend : (run (brownStep dewpointLnRhQ10 stm32f1Flash)
      (brownStart stm32f1Flash ⟨[], 0⟩ stm32f1Erased) upToComparison).toOption.map
        (fun σ => (σ.phase, σ.sys.app.relayPrev)) = some (.compare true, false) := by
    decide +kernel
  rw [hσ] at hend
  injection hend with hpair
  injection hpair with hphase hshadow
  obtain ⟨τ, hτ, hbad⟩ := not_deenergised_of_window dewpointLnRhQ10 stm32f1Flash hup
    ⟨hphase, hshadow⟩ 4000 (.ok, ⟨2000, 9500, 0, .valid⟩)
  obtain ⟨-, τ', hτ', hde⟩ := h Stm32f1Flash dewpointLnRhQ10 stm32f1Flash ⟨[], 0⟩ stm32f1Erased
    upToComparison [.advance 4000 (.ok, ⟨2000, 9500, 0, .valid⟩)] σ
    (fun op => advance_of_mem_upToComparison)
    (by simp) hσ
  rw [hτ] at hτ'
  cases hτ'
  exact hbad hde

end ClimateNode.Application
