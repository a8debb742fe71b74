import ClimateNode.App.IdealScheduler
import ClimateNode.App.WatchdogFeed

/-!
# The spacing of the samples

The control task is registered with the period at boot, one second, and only the gate inside
`app_task` follows a later configuration. After an iteration that applies a period the samples of
the loop are those of its gates (`sampleTicks_eq`), so they are one period apart exactly when the
period is a number of whole seconds and, unless it is one second, the next due time is not the time
of the last sample (`sample_spacing_iff`).
-/

set_option autoImplicit false

namespace ClimateNode.Application

open ClimateNode.Core ClimateNode.Service ClimateNode.Machine ClimateNode.Platforms

section Spacing

variable {F : Type}

/-- The iteration applies no other period. -/
def KeepsPeriod (d : FlashDriver F) (p : Nat) (σ : WdgSys F) (i : WdgInput) : Prop :=
  ∀ q, appliedPeriod d (deliverUart σ.loop.node i.uart) = some q → q = p

/-- The iterations that process a sample, by their times from `k` on, in ms. -/
def sampleTicks (lut : DewpointLut) (d : FlashDriver F) :
    Nat → WdgSys F → List WdgInput → List Nat
  | _, _, [] => []
  | k, σ, i :: is =>
      match wdgStep lut d σ i with
      | .error _ => []
      | .ok τ => (if SampleProcessed τ then [k] else []) ++ sampleTicks lut d (k + 1) τ is

/-- The loop at boot, when the clock shows `tick` ms. -/
def wdgStartAt (d : FlashDriver F) (plat : Platform) (flash : F) (cause : ResetCause)
    (tick : Nat) : WdgSys F :=
  let n := mcuBoot d plat flash cause (UInt32.ofNat tick)
  ⟨⟨n, mcuScheduler n⟩, UInt32.ofNat tick, 0⟩

/-- As long as the period stays, every two consecutive samples are `p` ms apart. -/
def SampledEvery (lut : DewpointLut) (d : FlashDriver F) (p : Nat) (σ : WdgSys F) : Prop :=
  ∀ inputs, StepsMeet (wdgStep lut d) (KeepsPeriod d p) σ inputs →
    (sampleTicks lut d 0 σ inputs).IsChain fun a b => b = a + p

/-- The time of the last sample: it fed the watchdog. -/
def lastSampleMs (σ : WdgSys F) : UInt32 := σ.nowMs - UInt32.ofNat σ.sinceFeed

variable (lut : DewpointLut) (d : FlashDriver F) {σ : WdgSys F} {g : Gates}

/-- While the period stays, the loop samples when its gates do. -/
theorem sampleTicks_eq (inputs : List WdgInput) : ∀ {σ : WdgSys F} {g : Gates} (k : Nat),
    GatesOf σ g → StepsMeet (wdgStep lut d) (KeepsPeriod d g.period) σ inputs →
    sampleTicks lut d k σ inputs = Gates.sampleTicks inputs.length k g := by
  induction inputs with
  | nil => exact fun _ _ _ => rfl
  | cons i inputs ih =>
      intro σ g k h hkeep
      obtain ⟨hi, hrest⟩ := hkeep
      obtain ⟨τ, hτ, hg, hsample⟩ := wdgStep_gates lut d i h
      -- applying the same period again changes nothing
      have htick : g.tick (appliedPeriod d (deliverUart σ.loop.node i.uart)) = g.tick none := by
        cases happ : appliedPeriod d (deliverUart σ.loop.node i.uart) with
        | none => rfl
        | some q =>
            rw [hi q happ]
            rfl
      rw [htick] at hg
      rw [sampleTicks, hτ, List.length_cons, Gates.sampleTicks, ← ih (k + 1) hg (hrest τ hτ)]
      exact if_congr hsample rfl rfl ▸ rfl

/-- Iterations without UART traffic keep the period. -/
theorem stepsMeet_keepsPeriod_quiet (read : Err × Sample) (p n : Nat) :
    ∀ {σ : WdgSys F} {g : Gates}, GatesOf σ g →
      StepsMeet (wdgStep lut d) (KeepsPeriod d p) σ (List.replicate n ⟨[], read⟩) := by
  induction n with
  | zero => exact fun _ => trivial
  | succ n ih =>
      intro σ g h
      refine ⟨?_, fun τ hτ => ?_⟩
      · rintro q hq
        rw [appliedPeriod_quiet h.quiet] at hq
        cases hq
      · obtain ⟨τ', hτ', hg, -⟩ := wdgStep_gates lut d ⟨[], read⟩ h
        rw [hτ] at hτ'
        cases hτ'
        exact ih hg

/-- The spacing is a matter of the gates: every number of ms is that of a run without traffic. -/
theorem sampledEvery_iff_gates (h : GatesOf σ g) :
    SampledEvery lut d g.period σ ↔
      ∀ n, (Gates.sampleTicks n 0 g).IsChain fun a b => b = a + g.period := by
  constructor
  · intro hall n
    let read : Err × Sample := (.ok, ⟨0, 0, 0, .valid⟩)
    have hquiet := stepsMeet_keepsPeriod_quiet lut d read g.period n h
    have hchain := hall _ hquiet
    rw [sampleTicks_eq lut d _ 0 h hquiet, List.length_replicate] at hchain
    exact hchain
  · intro hall inputs hkeep
    rw [sampleTicks_eq lut d inputs 0 h hkeep]
    exact hall inputs.length

/-- An effective period is positive. -/
theorem appliedPeriod_pos {d : FlashDriver F} {n : Node F} {p : Nat}
    (h : appliedPeriod d n = some p) : 0 < p := by
  simp only [appliedPeriod, Option.bind_eq_some_iff] at h
  obtain ⟨req, -, cfg, -, hp⟩ := h
  split at hp
  · rw [← Option.some.inj hp, samplePeriodMs_ctrlEffectiveConfig]
    split
    · decide
    · next hne =>
        refine Nat.pos_of_ne_zero fun hzero => hne ?_
        rw [← UInt32.toNat_inj]
        exact hzero
  · cases hp

/-- The tasks that `main` registers, on the unbounded clock. -/
def mcuIdealTasks : List (IdealTask McuTask) :=
  [⟨1000, 0, .control⟩, ⟨10, 0, .logger⟩, ⟨1, 0, .modbus⟩]

theorem tasks_mcuScheduler {n : Node F} (h : n.sys.app.ctrl.cfg.samplePeriodMs = 1000) :
    (mcuScheduler n).tasks = mcuIdealTasks.map IdealTask.wrapped := by
  rw [mcuScheduler, h]
  rfl

theorem scheduled_mcuIdealTasks : ∀ t ∈ mcuIdealTasks, t.Scheduled 0 := by
  intro t ht
  simp only [mcuIdealTasks, List.mem_cons, List.not_mem_nil, or_false] at ht
  rcases ht with rfl | rfl | rfl
  · exact ⟨by decide, by decide, Nat.le_refl 0, by decide⟩
  · exact ⟨by decide, by decide, Nat.le_refl 0, by decide⟩
  · exact ⟨by decide, by decide, Nat.le_refl 0, by decide⟩

/-- The first pass runs all three tasks. -/
theorem schedRunTasks_first {tick : Nat} (htick : tick < 2147483648) (i : McuInput) {n n' : Node F}
    (hn' : controlTask lut i n = .ok n') :
    ∃ l, l.fn = .logger ∧
      schedRunTasks (mcuExec lut d i) (UInt32.ofNat tick) (mcuIdealTasks.map IdealTask.wrapped) n =
        .ok ⟨[⟨1000, UInt32.ofNat (if 1000 ≤ tick then tick + 1000 else 1000), .control⟩, l,
          ⟨1, UInt32.ofNat (tick + 1), .modbus⟩], modbusTask d i n', true⟩ := by
  have hgap : CallGap 0 tick := ⟨Nat.zero_le tick, by omega⟩
  have hdue : idealDue tick mcuIdealTasks = [.control, .logger, .modbus] := by
    simp [idealDue, mcuIdealTasks]
  have hmodbus : (IdealTask.pass tick ⟨1, 0, McuTask.modbus⟩) = ⟨1, tick + 1, .modbus⟩ := by
    rw [IdealTask.pass, if_pos (Nat.zero_le tick)]
    by_cases hone : 1 ≤ tick
    · simp only [Nat.zero_add, if_pos hone]
    · rw [Nat.eq_zero_of_not_pos hone]
      rfl
  have hcontrol : (IdealTask.pass tick ⟨1000, 0, McuTask.control⟩) =
      ⟨1000, if 1000 ≤ tick then tick + 1000 else 1000, .control⟩ := by
    rw [IdealTask.pass, if_pos (Nat.zero_le tick)]
    simp only [Nat.zero_add]
  refine ⟨(IdealTask.pass tick ⟨10, 0, .logger⟩).wrapped, ?_, ?_⟩
  · rw [IdealTask.pass, if_pos (Nat.zero_le tick)]
    rfl
  · rw [schedRunTasks_wrapped (mcuExec lut d i) hgap mcuIdealTasks n scheduled_mcuIdealTasks, hdue]
    simp only [List.foldlM_cons, List.foldlM_nil, mcuExec, hn', checked_ok_bind, checked_pure,
      mcuIdealTasks, List.map_cons, List.map_nil, hcontrol, hmodbus]
    rfl

/-- The due time that the first sample leaves. -/
theorem appNextSample_first {app : App} {tick : Nat} (htick : tick < 2147483648)
    (hnext : app.nextSampleMs = 0) (hperiod : app.ctrl.cfg.samplePeriodMs = 1000) :
    appNextSample app (UInt32.ofNat tick) =
      msAfter (UInt32.ofNat tick) (Gates.booted tick).next := by
  have hnow : UInt32.ofNat tick = msAfter 0 tick := (UInt32.zero_add _).symm
  have hstart : app.nextSampleMs = msAfter 0 0 := hnext
  rw [appNextSample_msAfter htick (by decide : 0 + 1000 < 2147483648) hnow hstart
    (congrArg UInt32.toNat hperiod), hnow, ← msAfter_add]
  simp only [Gates.booted, Nat.zero_add]
  split
  · rfl
  · next hle => rw [Nat.add_sub_cancel' (Nat.not_lt.1 hle)]

/-- The next time of the control task after its first turn. -/
theorem first_control_due (tick : Nat) :
    UInt32.ofNat (if 1000 ≤ tick then tick + 1000 else 1000) =
      msAfter (UInt32.ofNat tick) ((Gates.booted tick).since + (Gates.booted tick).wait) := by
  by_cases hlate : 1000 ≤ tick
  · simp only [Gates.booted, if_pos hlate]
    exact UInt32.ofNat_add tick 1000
  · simp only [Gates.booted, if_neg hlate]
    rw [show 1 + (1000 - tick - 1) = 1000 - tick by omega, msAfter_ofNat (by omega)]

/-- The first iteration, at whatever tick, runs all tasks and processes a sample. -/
theorem wdgStep_first (plat : Platform) (flash : F) (cause : ResetCause) {tick : Nat}
    (htick : tick < 2147483648) (i : WdgInput) :
    ∃ τ, wdgStep lut d (wdgStartAt d plat flash cause tick) i = .ok τ ∧
      GatesOf τ (Gates.booted tick) := by
  have hperiod := samplePeriodMs_mcuBoot d plat flash cause (UInt32.ofNat tick)
  obtain ⟨n', hn', hf⟩ := controlTask_facts lut ⟨UInt32.ofNat tick, i.read⟩
    (n := passNode (mcuBoot d plat flash cause (UInt32.ofNat tick)) i.uart)
    (ctrlInv_initExtended _ _ cause)
  obtain ⟨l, hl, hpass⟩ := schedRunTasks_first lut d htick ⟨UInt32.ofNat tick, i.read⟩ hn'
  rw [← tasks_mcuScheduler hperiod] at hpass
  have hstep := wdgStep_of_pass lut d (σ := wdgStartAt d plat flash cause tick) i hpass
  have hmod := modbusTask_facts d ⟨UInt32.ofNat tick, i.read⟩ hf.inv
  have hdue : appDue (passNode (mcuBoot d plat flash cause (UInt32.ofNat tick)) i.uart).sys.app
      (UInt32.ofNat tick) = true := by
    rw [appDue_msAfter _ htick (by decide : 0 < 2147483648) (UInt32.zero_add _).symm rfl]
    exact decide_eq_true (Nat.zero_le tick)
  obtain ⟨hnext, htickets⟩ := hf.opened hdue
  have happlied : appliedPeriod d n' = none := by
    simp only [appliedPeriod, pendingRequest, hf.srv]
    rfl
  refine ⟨_, hstep, hmod.inv, ?_, hmod.quiet, Gates.bounded_booted tick, ?_, ?_,
    UInt32.ofNat tick, l, rfl, ?_, hl, ?_⟩
  · exact hmod.required.trans hf.required
  · rw [hmod.period, happlied, hf.ctrlCfg]
    exact congrArg UInt32.toNat hperiod
  · have hfeed : appCanFeedWatchdog
        (modbusTask d ⟨UInt32.ofNat tick, i.read⟩ n').sys.app = true := by
      simp only [appCanFeedWatchdog, hmod.tickets, hmod.required, hf.required, htickets]
      show ((0 ||| ticketControl ||| ticketComm) &&& (ticketControl ||| ticketComm) ==
        (ticketControl ||| ticketComm)) = true
      decide
    rw [hfeed]
    rfl
  · rw [hmod.nextSample, hnext]
    exact appNextSample_first htick rfl hperiod
  · show [_, l, _] = [_, l, _]
    rw [first_control_due, UInt32.ofNat_add]
    rfl

/-- The gates of every run from boot are on the grid of the scheduler, from the first iteration
on. -/
theorem run_onGrid (plat : Platform) (flash : F) (cause : ResetCause) {tick : Nat}
    (htick : tick < 2147483648) (i : WdgInput) (inputs : List WdgInput) :
    ∃ σ, run (wdgStep lut d) (wdgStartAt d plat flash cause tick) (i :: inputs) = .ok σ ∧
      ∃ g, GatesOf σ g ∧ g.OnGrid := by
  obtain ⟨σ₁, hσ₁, h₁⟩ := wdgStep_first lut d plat flash cause htick i
  rw [run_cons_ok hσ₁]
  apply run_of_invariant (A := fun _ => True)
  · exact ⟨Gates.booted tick, h₁, Gates.onGrid_booted tick⟩
  · rintro σ i ⟨g, hg, hgrid⟩ -
    obtain ⟨τ, hτ, hg', -⟩ := wdgStep_gates lut d i hg
    exact ⟨τ, hτ, _, hg', hgrid.tick _⟩
  · exact fun _ _ => trivial

/-- The due time of the inner gate is the last sample's time exactly when the stored times agree. -/
theorem next_eq_zero_iff (h : GatesOf σ g) :
    g.next = 0 ↔ σ.loop.node.sys.app.nextSampleMs = lastSampleMs σ := by
  obtain ⟨a, l, hnow, hnext, -, -⟩ := h.times
  have hle := h.bounded.next_le
  have hlast : lastSampleMs σ = a := by
    rw [lastSampleMs, h.since, hnow]
    exact UInt32.add_sub_cancel a _
  rw [hlast, hnext, msAfter_eq_self_iff a (by omega)]

/-- After an iteration that applied the period `p`, the spacing of the samples that follow. -/
theorem sampledEvery_iff_of_applied {τ : WdgSys F} {i : WdgInput} {p : Nat} (h : GatesOf σ g)
    (hgrid : g.OnGrid) (happ : appliedPeriod d (deliverUart σ.loop.node i.uart) = some p)
    (hτ : wdgStep lut d σ i = .ok τ) :
    SampledEvery lut d p τ ↔
      1000 ∣ p ∧ (p = 1000 ∨ τ.loop.node.sys.app.nextSampleMs ≠ lastSampleMs τ) := by
  obtain ⟨τ', hτ', hg, -⟩ := wdgStep_gates lut d i h
  rw [hτ] at hτ'
  cases hτ'
  rw [happ] at hg
  have hpos : 0 < (g.tick (some p)).period := appliedPeriod_pos happ
  have hiff := Gates.isChain_sampleTicks_iff hg.bounded (hgrid.tick (some p))
    (Gates.since_pos_tick (some p)) hpos
  rw [← sampledEvery_iff_gates lut d hg, Ne, next_eq_zero_iff hg] at hiff
  exact hiff

/-- No iteration before the first `modbus_task` call applies a configuration. -/
theorem appliedPeriod_start (plat : Platform) (flash : F) (cause : ResetCause) (tick : Nat)
    (i : WdgInput) :
    appliedPeriod d (deliverUart (wdgStartAt d plat flash cause tick).loop.node i.uart) = none :=
  rfl

/-- In every run from boot, the samples after an applied configuration have the spacing of its
effective period `p` exactly when `p` is a number of whole seconds and, unless it is one second, the
next due time then is not the time of the last sample. -/
theorem sample_spacing_iff (plat : Platform) (flash : F) (cause : ResetCause) (tick : Nat)
    (htick : tick < 2147483648) (pre : List WdgInput) (i : WdgInput) (p : Nat) (τ : WdgSys F)
    (hpre : run (wdgStep lut d) (wdgStartAt d plat flash cause tick) pre = .ok σ)
    (happ : appliedPeriod d (deliverUart σ.loop.node i.uart) = some p)
    (hτ : wdgStep lut d σ i = .ok τ) :
    SampledEvery lut d p τ ↔
      1000 ∣ p ∧ (p = 1000 ∨ τ.loop.node.sys.app.nextSampleMs ≠ lastSampleMs τ) := by
  cases pre with
  | nil =>
      cases hpre
      rw [appliedPeriod_start] at happ
      cases happ
  | cons j pre =>
      obtain ⟨σ', hσ', g, hg, hgrid⟩ := run_onGrid lut d plat flash cause htick j pre
      rw [hpre] at hσ'
      cases hσ'
      exact sampledEvery_iff_of_applied lut d hg hgrid happ hτ

end Spacing

/-- What the sensor returns in the runs below. -/
def steadyRead : Err × Sample := (.ok, ⟨2000, 5000, 0, .valid⟩)

/-- The loop of an erased node, booted at tick 0. -/
def erasedStart : WdgSys Stm32f1Flash := wdgStartAt stm32f1Flash ⟨[], 0⟩ stm32f1Erased .powerOn 0

/-- A write of 2000 after the first sample: the samples come every two seconds. -/
theorem sample_spacing_iff_two_seconds :
    ∃ τ, run (wdgStep dewpointLnRhQ10 stm32f1Flash) erasedStart
        [⟨[], steadyRead⟩, sampleWrite 2000 steadyRead] = .ok τ ∧
      SampledEvery dewpointLnRhQ10 stm32f1Flash 2000 τ := by
  obtain ⟨σ, hσ, hg⟩ := wdgStep_first dewpointLnRhQ10 stm32f1Flash ⟨[], 0⟩ stm32f1Erased .powerOn
    (by decide : 0 < 2147483648) ⟨[], steadyRead⟩
  have happ : appliedPeriod stm32f1Flash
      (deliverUart σ.loop.node (sampleWrite 2000 steadyRead).uart) = some 2000 :=
    appliedPeriod_of_step hσ (by decide +kernel)
  obtain ⟨τ, hτ, hg', -⟩ :=
    wdgStep_gates dewpointLnRhQ10 stm32f1Flash (sampleWrite 2000 steadyRead) hg
  have hrun : run (wdgStep dewpointLnRhQ10 stm32f1Flash) erasedStart [⟨[], steadyRead⟩] = .ok σ :=
    (run_snoc_ok (run_nil _) _).trans hσ
  refine ⟨τ, (run_snoc_ok hrun _).trans hτ, ?_⟩
  refine (sample_spacing_iff dewpointLnRhQ10 stm32f1Flash ⟨[], 0⟩ stm32f1Erased .powerOn 0
    (by decide) [⟨[], steadyRead⟩] (sampleWrite 2000 steadyRead) 2000 τ hrun happ hτ).2
    ⟨⟨2, rfl⟩, ?_⟩
  -- the second sample is due one second after the first
  rw [happ] at hg'
  exact Or.inr fun heq => absurd ((next_eq_zero_iff hg').2 heq) (by decide)

/-- A write of 1500 after the first sample: no two samples can be 1500 ms apart. -/
theorem not_sampled_every_1500 :
    ¬ ∀ (F : Type) (lut : DewpointLut) (d : FlashDriver F) (plat : Platform) (flash : F)
      (cause : ResetCause) (tick : Nat) (pre : List WdgInput) (i : WdgInput) (p : Nat)
      (σ τ : WdgSys F), run (wdgStep lut d) (wdgStartAt d plat flash cause tick) pre = .ok σ →
      appliedPeriod d (deliverUart σ.loop.node i.uart) = some p → wdgStep lut d σ i = .ok τ →
      SampledEvery lut d p τ := by
  intro h
  obtain ⟨σ, hσ, hg⟩ := wdgStep_first dewpointLnRhQ10 stm32f1Flash ⟨[], 0⟩ stm32f1Erased .powerOn
    (by decide : 0 < 2147483648) ⟨[], steadyRead⟩
  have happ : appliedPeriod stm32f1Flash
      (deliverUart σ.loop.node (sampleWrite 1500 steadyRead).uart) = some 1500 :=
    appliedPeriod_of_step hσ (by decide +kernel)
  obtain ⟨τ, hτ, -, -⟩ :=
    wdgStep_gates dewpointLnRhQ10 stm32f1Flash (sampleWrite 1500 steadyRead) hg
  have hspacing := h Stm32f1Flash dewpointLnRhQ10 stm32f1Flash ⟨[], 0⟩ stm32f1Erased .powerOn 0
    [⟨[], steadyRead⟩] (sampleWrite 1500 steadyRead) 1500 σ τ
    ((run_snoc_ok (run_nil _) _).trans hσ) happ hτ
  have hiff := sampledEvery_iff_of_applied dewpointLnRhQ10 stm32f1Flash hg
    (Gates.onGrid_booted 0) happ hτ
  exact absurd (hiff.1 hspacing).1 (by decide)

end ClimateNode.Application
