import ClimateNode.Core.ControllerInvariant

/-!
# Crash isolation

The crash count lives in the backup register and in a field of the controller. A watchdog boot
increments both, a power-on boot clears both, and an update that reaches `RUN` clears both when the
field is not zero. Every other boot and every `ctrl_init` inside a boot clears the field only.

`CrashSys` adds to the controller the length of the current row of watchdog boots. The register is
that length modulo 256 in every run that keeps the two counts in step (`KeepsRegister`), so no such
run locks out too early. In a crash loop, boots and updates that do not reach `RUN`, the register
counts the boots modulo 256, which decides exactly which boot of the loop locks.
-/

set_option autoImplicit false

namespace ClimateNode.Core

open ClimateNode.Machine

/-- An update with the sample `s` passes the guard, the validity check and the recovery check, and
fills the filter. -/
def ReachesRun (c : Controller) (s : Sample) : Prop :=
  ¬ (c.state = .safe ∨ c.powerIsDying = true) ∧ sampleIsValid s = true ∧
    ((c.state = .sensorFault ∨ c.state = .mathFault) →
      c.cfg.recoveryThreshold ≤ c.sensorOkStreak + 1) ∧
    4 ≤ c.filter.count.toNat

instance (c : Controller) (s : Sample) : Decidable (ReachesRun c s) := by
  unfold ReachesRun
  infer_instance

/-! ## What an update does to the counts -/

section Exits

variable {lut : DewpointLut} {p : Platform} {c : Controller} {w : List TempCd} {s : Sample}
  {r : CtrlStep}

/-- An update returns `ERR_OK` exactly when its sample reaches `RUN`. -/
theorem err_ok_iff_reachesRun (hw : SensorWindow c.filter w) (hx : UpdateExit lut p c w s r) :
    r.err = .ok ↔ ReachesRun c s := by
  have hcount := hw.holds.length_eq
  have hle : w.length ≤ 5 := by
    rw [hcount]
    exact hw.holds.count_le
  have hpush := length_pushWindow hle (by decide) s.tempCd
  cases hx with
  | locked hlock => exact ⟨nofun, fun h => absurd hlock h.1⟩
  | debounced hlock hs hlt =>
      refine ⟨nofun, fun h => ?_⟩
      rw [h.2.1] at hs
      cases hs
  | faulted hlock hs hge =>
      refine ⟨nofun, fun h => ?_⟩
      rw [h.2.1] at hs
      cases hs
  | recovering hlock hs hfault hlt =>
      exact ⟨nofun, fun h => absurd (h.2.2.1 hfault) (UInt8.not_le.2 hlt)⟩
  | processed hlock hs hready hp =>
      cases hp with
      | warming f avg hwin hlen havg =>
          -- four inputs before this one would have filled the window
          refine ⟨nofun, fun h => ?_⟩
          have := h.2.2.2
          omega
      | running f avg dew marginCd hwin hlen havg hdew hmargin =>
          exact ⟨fun _ => ⟨hlock, hs, hready, by omega⟩, fun _ => rfl⟩

/-- An update that does not reach `RUN` leaves both counts. -/
theorem counts_of_not_ok (hx : UpdateExit lut p c w s r) (hr : r.err ≠ .ok) :
    r.plat = p ∧ r.ctrl.watchdogCrashCounter = c.watchdogCrashCounter := by
  cases hx with
  | locked => exact ⟨rfl, rfl⟩
  | debounced => exact ⟨rfl, rfl⟩
  | faulted => exact ⟨rfl, rfl⟩
  | recovering => exact ⟨rfl, rfl⟩
  | processed hlock hs hready hp =>
      cases hp with
      | warming => exact ⟨rfl, rfl⟩
      | running => exact absurd rfl hr

/-- An update that reaches `RUN` clears the field, and the register if the field was not zero. -/
theorem counts_of_ok (hx : UpdateExit lut p c w s r) (hr : r.err = .ok) :
    r.plat = clearedPlatform p c ∧ r.ctrl.watchdogCrashCounter = 0 ∧ r.ctrl.state = .run := by
  cases hx with
  | locked => cases hr
  | debounced => cases hr
  | faulted => cases hr
  | recovering => cases hr
  | processed hlock hs hready hp =>
      cases hp with
      | warming => cases hr
      | running => exact ⟨rfl, rfl, rfl⟩

/-- An update enters no `SAFE`. -/
theorem safe_of_exit (hx : UpdateExit lut p c w s r) (hr : r.ctrl.state = .safe) :
    c.state = .safe := by
  cases hx with
  | locked => exact hr
  | debounced => exact hr
  | faulted => cases hr
  | recovering => exact hr
  | processed hlock hs hready hp =>
      cases hp with
      | warming => cases hr
      | running => cases hr

end Exits

/-! ## Histories of boots -/

/-- The controller and the watchdog boots in a row so far: no boot of another cause and no update
that returned `ERR_OK` since the first of them. -/
structure CrashSys where
  sys : CtrlSys
  row : Nat
  deriving DecidableEq, Repr

/-- A boot, an update inside it, or the `ctrl_init` of an applied configuration inside it. -/
inductive CrashOp where
  | boot (cfg : Option ControllerConfig) (cause : ResetCause)
  | update (s : Sample)
  | reinit (cfg : Option ControllerConfig)
  deriving DecidableEq, Repr

/-- A boot keeps the platform only. -/
def crashBoot (p : Platform) (row : Nat) (cfg : Option ControllerConfig) (cause : ResetCause) :
    CrashSys :=
  let pc := ctrlInitExtended p cfg cause
  ⟨⟨pc.1, pc.2⟩, if cause = .watchdog then row + 1 else 0⟩

/-- One step of a history. -/
def crashStep (lut : DewpointLut) (σ : CrashSys) : CrashOp → Checked CrashSys
  | .boot cfg cause => .ok (crashBoot σ.sys.plat σ.row cfg cause)
  | .update s => do
      let r ← ctrlUpdate lut σ.sys.plat σ.sys.ctrl s
      pure ⟨⟨r.plat, r.ctrl⟩, if r.err = .ok then 0 else σ.row⟩
  | .reinit cfg => .ok ⟨⟨σ.sys.plat, ctrlInit cfg⟩, σ.row⟩

/-- The first boot, with a backup register of zero. -/
def crashStart (cfg : Option ControllerConfig) (cause : ResetCause) : CrashSys :=
  crashBoot ⟨[], 0⟩ 0 cfg cause

/-- `SAFE` only from the third watchdog boot in a row on. -/
def LockoutEarned (σ : CrashSys) : Prop := σ.sys.ctrl.state = .safe → 3 ≤ σ.row

/-- The step does not lose the register: neither a boot that clears the field only nor an update
that reaches `RUN` with a cleared field meets a register other than zero. -/
def KeepsRegister (σ : CrashSys) : CrashOp → Prop
  | .boot _ cause => cause ≠ .watchdog → cause ≠ .powerOn → σ.sys.plat.backupReg = 0
  | .update s =>
      ReachesRun σ.sys.ctrl s → σ.sys.ctrl.watchdogCrashCounter = 0 → σ.sys.plat.backupReg = 0
  | .reinit _ => True

instance (σ : CrashSys) (op : CrashOp) : Decidable (KeepsRegister σ op) :=
  match op with
  | .boot _ _ => inferInstanceAs (Decidable (_ → _ → _))
  | .update _ => inferInstanceAs (Decidable (_ → _ → _))
  | .reinit _ => isTrue trivial

/-- A step of a crash loop: a watchdog boot, an update that does not reach `RUN`, or a
`ctrl_init`. -/
def InCrashLoop (σ : CrashSys) : CrashOp → Prop
  | .boot _ cause => cause = .watchdog
  | .update s => ¬ ReachesRun σ.sys.ctrl s
  | .reinit _ => True

/-- The boots of a history. -/
def bootCount (ops : List CrashOp) : Nat :=
  ops.countP fun op => match op with
    | .boot _ _ => true
    | _ => false

theorem toNat_succ (x : UInt8) : (x + 1).toNat = (x.toNat + 1) % 256 := UInt8.toNat_add x 1

/-- A watchdog boot increments register and field, and locks on their new value. -/
theorem crashBoot_watchdog (p : Platform) (row : Nat) (cfg : Option ControllerConfig) :
    let σ := crashBoot p row cfg .watchdog
    σ.sys.plat.backupReg = p.backupReg + 1 ∧ σ.sys.ctrl.watchdogCrashCounter = p.backupReg + 1 ∧
      σ.row = row + 1 ∧ CtrlInv σ.sys.ctrl ∧
      (σ.sys.ctrl.state = .safe ↔ 3 ≤ (p.backupReg.toNat + 1) % 256) ∧
      σ.sys.ctrl.relayOn = σ.sys.ctrl.cfg.relaySafeState := by
  have hinv := ctrlInv_initExtended p cfg .watchdog
  have hge : p.backupReg + 1 ≥ 3 ↔ 3 ≤ (p.backupReg.toNat + 1) % 256 := by
    rw [ge_iff_le, UInt8.le_iff_toNat_le, toNat_succ]
    rfl
  rw [ctrlInitExtended_watchdog] at hinv
  rw [crashBoot, ctrlInitExtended_watchdog, if_pos rfl, ← hge]
  refine ⟨rfl, rfl, rfl, hinv, ?_, rfl⟩
  by_cases h : p.backupReg + 1 ≥ 3
  · simp [h]
  · simp [h]

/-- An update inside a history, by one of its exits. -/
theorem crashStep_update (lut : DewpointLut) {σ : CrashSys} (s : Sample) (h : CtrlInv σ.sys.ctrl) :
    ∃ w r, SensorWindow σ.sys.ctrl.filter w ∧ UpdateExit lut σ.sys.plat σ.sys.ctrl w s r ∧
      CtrlInv r.ctrl ∧
      crashStep lut σ (.update s) =
        .ok ⟨⟨r.plat, r.ctrl⟩, if r.err = .ok then 0 else σ.row⟩ := by
  obtain ⟨w, r, hw, hr, hx, hinv⟩ := ctrlUpdate_inv lut σ.sys.plat s h
  refine ⟨w, r, hw, hx, hinv, ?_⟩
  simp only [crashStep, hr, checked_ok_bind, checked_pure]

/-- A step inside a crash loop, with the register and the row it leaves. -/
theorem crashStep_inCrashLoop (lut : DewpointLut) {σ : CrashSys} {op : CrashOp}
    (h : CtrlInv σ.sys.ctrl) (hop : InCrashLoop σ op) :
    ∃ τ, crashStep lut σ op = .ok τ ∧ CtrlInv τ.sys.ctrl ∧
      τ.sys.plat.backupReg.toNat = (σ.sys.plat.backupReg.toNat + bootCount [op]) % 256 := by
  have hlt : σ.sys.plat.backupReg.toNat % 256 = σ.sys.plat.backupReg.toNat :=
    Nat.mod_eq_of_lt σ.sys.plat.backupReg.toNat_lt
  cases op with
  | boot cfg cause =>
      obtain rfl : cause = .watchdog := hop
      obtain ⟨hreg, -, -, hinv, -⟩ := crashBoot_watchdog σ.sys.plat σ.row cfg
      exact ⟨_, rfl, hinv, by rw [hreg, toNat_succ]; rfl⟩
  | update s =>
      obtain ⟨w, r, hw, hx, hinv, hτ⟩ := crashStep_update lut s h
      have hplat := (counts_of_not_ok hx (mt (err_ok_iff_reachesRun hw hx).1 hop)).1
      refine ⟨_, hτ, hinv, ?_⟩
      exact (congrArg (fun p => p.backupReg.toNat) hplat).trans hlt.symm
  | reinit cfg => exact ⟨_, rfl, ctrlInv_init cfg, hlt.symm⟩

/-- Along a crash loop the register counts the boots modulo 256. -/
theorem crashRun_inCrashLoop (lut : DewpointLut) {σ : CrashSys} {ops : List CrashOp}
    (h : CtrlInv σ.sys.ctrl) (hops : StepsMeet (crashStep lut) InCrashLoop σ ops) :
    ∃ τ, run (crashStep lut) σ ops = .ok τ ∧ CtrlInv τ.sys.ctrl ∧
      τ.sys.plat.backupReg.toNat = (σ.sys.plat.backupReg.toNat + bootCount ops) % 256 := by
  refine run_of_stepsMeet (R := fun js (τ : CrashSys) => CtrlInv τ.sys.ctrl ∧
    τ.sys.plat.backupReg.toNat = (σ.sys.plat.backupReg.toNat + bootCount js) % 256) ?_ ?_ hops
  · -- one more step adds its boots to the count of the history `js`
    rintro js τ op ⟨hinv, hreg⟩ hop
    obtain ⟨τ', hτ', hinv', hreg'⟩ := crashStep_inCrashLoop lut hinv hop
    have hsnoc : bootCount (js ++ [op]) = bootCount js + bootCount [op] := List.countP_append
    refine ⟨τ', hτ', hinv', ?_⟩
    rw [hreg', hreg, hsnoc, Nat.mod_add_mod, Nat.add_assoc]
  · exact ⟨h, (Nat.mod_eq_of_lt σ.sys.plat.backupReg.toNat_lt).symm⟩

/-- The next watchdog boot of a crash loop locks when the count modulo 256 is three or more, and has
the relay in its safe state either way. -/
theorem crashLoop_boot (lut : DewpointLut) {σ : CrashSys} {ops : List CrashOp}
    (h : CtrlInv σ.sys.ctrl) (hops : StepsMeet (crashStep lut) InCrashLoop σ ops)
    (cfg : Option ControllerConfig) :
    ∃ τ, run (crashStep lut) σ (ops ++ [.boot cfg .watchdog]) = .ok τ ∧
      (τ.sys.ctrl.state = .safe ↔
        3 ≤ (σ.sys.plat.backupReg.toNat + (bootCount ops + 1)) % 256) ∧
      τ.sys.ctrl.relayOn = τ.sys.ctrl.cfg.relaySafeState := by
  obtain ⟨τ, hτ, -, hreg⟩ := crashRun_inCrashLoop lut h hops
  obtain ⟨-, -, -, -, hsafe, hrelay⟩ := crashBoot_watchdog τ.sys.plat τ.row cfg
  refine ⟨crashBoot τ.sys.plat τ.row cfg .watchdog, ?_, ?_, hrelay⟩
  · rw [run_snoc_ok hτ]
    rfl
  · rw [hsafe, hreg, Nat.mod_add_mod, Nat.add_assoc]

/-! ## The row and the register -/

/-- The invariant of a history that keeps the register. -/
structure RowInv (σ : CrashSys) : Prop where
  inv : CtrlInv σ.sys.ctrl
  register : σ.sys.plat.backupReg.toNat = σ.row % 256
  counter : σ.sys.ctrl.watchdogCrashCounter = 0 ∨
    σ.sys.ctrl.watchdogCrashCounter = σ.sys.plat.backupReg
  earned : LockoutEarned σ

theorem crashBoot_inv {p : Platform} {row : Nat} (cfg : Option ControllerConfig)
    (cause : ResetCause) (hreg : p.backupReg.toNat = row % 256)
    (hkeep : cause ≠ .watchdog → cause ≠ .powerOn → p.backupReg = 0) :
    RowInv (crashBoot p row cfg cause) := by
  by_cases hw : cause = .watchdog
  · subst hw
    obtain ⟨h₁, h₂, h₃, hinv, hsafe, -⟩ := crashBoot_watchdog p row cfg
    refine ⟨hinv, ?_, Or.inr (h₂.trans h₁.symm), fun hs => ?_⟩
    · rw [h₁, h₃, toNat_succ, hreg, Nat.mod_add_mod]
    · -- the count is the row modulo 256, so it is at most the row
      have := hsafe.1 hs
      rw [hreg, Nat.mod_add_mod] at this
      rw [h₃]
      exact this.trans (Nat.mod_le _ _)
  · by_cases hp : cause = .powerOn
    · -- field, register and row are all zero
      subst hp
      rw [crashBoot, ctrlInitExtended_powerOn, if_neg hw]
      exact ⟨ctrlInv_init cfg, rfl, Or.inl rfl, nofun⟩
    · -- only the field is cleared, so the register has to be zero already
      have h0 := hkeep hw hp
      rw [crashBoot, ctrlInitExtended_other p cfg hw hp, if_neg hw]
      refine ⟨ctrlInv_init cfg, ?_, Or.inl rfl, nofun⟩
      show p.backupReg.toNat = 0 % 256
      rw [h0]
      rfl

theorem rowInv_start (cfg : Option ControllerConfig) (cause : ResetCause) :
    RowInv (crashStart cfg cause) := crashBoot_inv cfg cause rfl fun _ _ => rfl

theorem clearedPlatform_backupReg {p : Platform} {c : Controller}
    (h : c.watchdogCrashCounter = 0 → p.backupReg = 0) : (clearedPlatform p c).backupReg = 0 := by
  unfold clearedPlatform
  split
  · exact h ‹_›
  · rfl

theorem crashStep_rowInv (lut : DewpointLut) (σ : CrashSys) (op : CrashOp) (h : RowInv σ)
    (hkeep : KeepsRegister σ op) : ∃ τ, crashStep lut σ op = .ok τ ∧ RowInv τ := by
  cases op with
  | boot cfg cause => exact ⟨_, rfl, crashBoot_inv cfg cause h.register hkeep⟩
  | reinit cfg => exact ⟨_, rfl, ctrlInv_init cfg, h.register, Or.inl rfl, nofun⟩
  | update s =>
      obtain ⟨w, r, hw, hx, hinv, hτ⟩ := crashStep_update lut s h.inv
      refine ⟨_, hτ, ?_⟩
      by_cases hok : r.err = .ok
      · -- the update reached `RUN`: both counts and the row are zero
        obtain ⟨hplat, hzero, hrun⟩ := counts_of_ok hx hok
        have hreg := clearedPlatform_backupReg (hkeep ((err_ok_iff_reachesRun hw hx).1 hok))
        rw [if_pos hok]
        refine ⟨hinv, ?_, Or.inl hzero, fun hs => ?_⟩
        · show r.plat.backupReg.toNat = 0 % 256
          rw [hplat, hreg]
          rfl
        · cases hrun.symm.trans hs
      · -- any other update leaves counts and row
        obtain ⟨hplat, hcount⟩ := counts_of_not_ok hx hok
        rw [if_neg hok, hplat]
        exact ⟨hinv, h.register, hcount ▸ h.counter, fun hs => h.earned (safe_of_exit hx hs)⟩

/-- Along every history that keeps the register, `SAFE` is entered only from the third watchdog boot
in a row on. -/
theorem no_false_lockout (lut : DewpointLut) (cfg : Option ControllerConfig) (cause : ResetCause)
    (ops : List CrashOp)
    (h : StepsMeet (crashStep lut) KeepsRegister (crashStart cfg cause) ops) :
    AlwaysAlong (crashStep lut) LockoutEarned (crashStart cfg cause) ops :=
  alwaysAlong_of_stepsMeet (fun _ hσ => hσ.earned) (crashStep_rowInv lut) (rowInv_start cfg cause) h

/-- A software reset with nothing in the register, a crash that the node recovers from, and three
crashes in a row. -/
def crashAfterRecovery : List CrashOp :=
  let settle := List.replicate 5 (.update ⟨2150, 4500, 0, .valid⟩)
  [.boot none .software] ++ settle ++ [.boot none .watchdog] ++ settle ++
    List.replicate 3 (.boot none .watchdog)

theorem no_false_lockout_crashAfterRecovery :
    AlwaysAlong (crashStep dewpointLnRhQ10) LockoutEarned (crashStart none .powerOn)
      crashAfterRecovery := by
  apply no_false_lockout
  decide +kernel

/-- Two watchdog boots, a software reset and one more watchdog boot lock out. -/
theorem false_lockout_after_softwareReset :
    ¬ ∀ (lut : DewpointLut) (cfg : Option ControllerConfig) (cause : ResetCause)
      (ops : List CrashOp),
      AlwaysAlong (crashStep lut) LockoutEarned (crashStart cfg cause) ops := by
  intro h
  have hall := h dewpointLnRhQ10 none .powerOn
    [.boot none .watchdog, .boot none .watchdog, .boot none .software, .boot none .watchdog]
  obtain ⟨τ, hτ, hearned⟩ := alwaysAlong_iff_prefix.1 hall _ (List.prefix_refl _)
  cases hτ
  exact absurd (hearned rfl) (by decide)

/-! ## Crash loops -/

/-- The states of a history. -/
def CrashReachable (lut : DewpointLut) (σ : CrashSys) : Prop :=
  ∃ cfg cause ops, run (crashStep lut) (crashStart cfg cause) ops = .ok σ

theorem crashStep_inv (lut : DewpointLut) (σ : CrashSys) (op : CrashOp) (h : CtrlInv σ.sys.ctrl) :
    ∃ τ, crashStep lut σ op = .ok τ ∧ CtrlInv τ.sys.ctrl := by
  cases op with
  | boot cfg cause => exact ⟨_, rfl, ctrlInv_initExtended _ cfg cause⟩
  | reinit cfg => exact ⟨_, rfl, ctrlInv_init cfg⟩
  | update s =>
      obtain ⟨w, r, -, -, hinv, hτ⟩ := crashStep_update lut s h
      exact ⟨_, hτ, hinv⟩

theorem CrashReachable.inv {lut : DewpointLut} {σ : CrashSys} (h : CrashReachable lut σ) :
    CtrlInv σ.sys.ctrl := by
  obtain ⟨cfg, cause, ops, hrun⟩ := h
  have h0 : CtrlInv (crashStart cfg cause).sys.ctrl := ctrlInv_initExtended _ cfg cause
  obtain ⟨τ, hτ, hinv⟩ := run_of_invariant (I := fun τ : CrashSys => CtrlInv τ.sys.ctrl)
    (A := fun _ => True) h0 (fun τ op h _ => crashStep_inv lut τ op h) ops
    fun _ _ => trivial
  rw [hτ] at hrun
  cases hrun
  exact hinv

/-- From every reachable state and after every crash loop, the next watchdog boot is locked with the
relay in its safe state exactly when the register it started from and the boots of the loop add up
to three or more modulo 256. -/
theorem crash_lockout_iff (lut : DewpointLut) (σ : CrashSys) (ops : List CrashOp)
    (cfg : Option ControllerConfig) (hσ : CrashReachable lut σ)
    (hops : StepsMeet (crashStep lut) InCrashLoop σ ops) :
    ∃ τ, run (crashStep lut) σ (ops ++ [.boot cfg .watchdog]) = .ok τ ∧
      ((τ.sys.ctrl.state = .safe ∧ τ.sys.ctrl.relayOn = τ.sys.ctrl.cfg.relaySafeState) ↔
        3 ≤ (σ.sys.plat.backupReg.toNat + (bootCount ops + 1)) % 256) := by
  obtain ⟨τ, hτ, hsafe, hrelay⟩ := crashLoop_boot lut hσ.inv hops cfg
  exact ⟨τ, hτ, by rw [← hsafe, and_iff_left hrelay]⟩

theorem crash_lockout_iff_threeBoots :
    ∃ τ, run (crashStep dewpointLnRhQ10) (crashStart none .powerOn)
        ([.boot none .watchdog, .boot none .watchdog] ++ [.boot none .watchdog]) = .ok τ ∧
      τ.sys.ctrl.state = .safe := by
  obtain ⟨τ, hτ, hiff⟩ := crash_lockout_iff dewpointLnRhQ10 (crashStart none .powerOn)
    [.boot none .watchdog, .boot none .watchdog] none ⟨none, .powerOn, [], rfl⟩
    ⟨rfl, fun _ _ => ⟨rfl, fun _ _ => trivial⟩⟩
  exact ⟨τ, hτ, (hiff.2 (by decide)).1⟩

/-- The 256th watchdog boot of a crash loop is not locked. -/
theorem crash_lockout_missed :
    ¬ ∀ (lut : DewpointLut) (σ : CrashSys) (ops : List CrashOp) (cfg : Option ControllerConfig),
      CrashReachable lut σ → StepsMeet (crashStep lut) InCrashLoop σ ops →
      3 ≤ bootCount ops + 1 →
      ∃ τ, run (crashStep lut) σ (ops ++ [.boot cfg .watchdog]) = .ok τ ∧
        τ.sys.ctrl.state = .safe ∧ τ.sys.ctrl.relayOn = τ.sys.ctrl.cfg.relaySafeState := by
  intro h
  have hreach : CrashReachable dewpointLnRhQ10 (crashStart none .powerOn) :=
    ⟨none, .powerOn, [], rfl⟩
  have hcount : bootCount (List.replicate 255 (.boot none .watchdog)) = 255 := by
    rw [bootCount, List.countP_replicate, if_pos rfl]
  have hops : StepsMeet (crashStep dewpointLnRhQ10) InCrashLoop (crashStart none .powerOn)
      (List.replicate 255 (.boot none .watchdog)) := by
    apply stepsMeet_of_forall_mem
    intro σ op hop
    rw [List.eq_of_mem_replicate hop]
    rfl
  obtain ⟨τ, hτ, hsafe, -⟩ := h _ _ _ none hreach hops (by rw [hcount]; decide)
  obtain ⟨τ', hτ', hiff, -⟩ := crashLoop_boot dewpointLnRhQ10 hreach.inv hops none
  rw [hτ] at hτ'
  cases hτ'
  have hmod := hiff.1 hsafe
  rw [hcount] at hmod
  exact absurd hmod (by decide)

end ClimateNode.Core
