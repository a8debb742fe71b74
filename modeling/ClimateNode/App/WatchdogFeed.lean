import ClimateNode.App.MainMcu
import ClimateNode.App.SampleGates
import ClimateNode.Machine.Runs
import ClimateNode.Machine.WrapTime

/-!
# Feeding the watchdog

One iteration of the main loop per millisecond. An iteration feeds the watchdog when both required
tickets are marked: the Modbus task marks its own every time, the control task only when a sample
was processed. The two period gates in front of the sample are `Gates`, and every iteration of the
loop is one `Gates.tick` (`wdgStep_gates`), with the period that the iteration's Modbus request
applies, if any. So the watchdog is fed in time while every applied period is at most two seconds.
-/

set_option autoImplicit false

namespace ClimateNode.Application

open ClimateNode.Core ClimateNode.Service ClimateNode.Machine ClimateNode.Platforms

/-- The main loop at a tick, with the milliseconds since the last feed or since boot. -/
structure WdgSys (F : Type) where
  loop : McuLoop F
  nowMs : UInt32
  sinceFeed : Nat

/-- What the UART delivered before an iteration, and what the sensor returns in it. -/
structure WdgInput where
  uart : List UartEvent
  read : Err × Sample

section Loop

variable {F : Type}

/-- The iteration at the current tick, and the next tick. -/
def wdgStep (lut : DewpointLut) (d : FlashDriver F) (σ : WdgSys F) (i : WdgInput) :
    Checked (WdgSys F) := do
  let loop := { σ.loop with node := deliverUart σ.loop.node i.uart }
  let r ← mcuIterate lut d ⟨σ.nowMs, i.read⟩ loop
  pure ⟨r.1, σ.nowMs + 1, if r.2 then 1 else σ.sinceFeed + 1⟩

/-- The loop at boot, tick 0. -/
def wdgStart (d : FlashDriver F) (plat : Platform) (flash : F) (cause : ResetCause) : WdgSys F :=
  let n := mcuBoot d plat flash cause 0
  ⟨⟨n, mcuScheduler n⟩, 0, 0⟩

/-- The watchdog's timeout, in ms. -/
def wdgTimeoutMs : Nat := 2000

/-- The control task marked its ticket in the last iteration, so it processed a sample. -/
def SampleProcessed (σ : WdgSys F) : Prop := σ.loop.node.sys.app.ticketMask &&& ticketControl ≠ 0

instance (σ : WdgSys F) : Decidable (SampleProcessed σ) := by
  unfold SampleProcessed
  infer_instance

/-- The last feed, or the boot, is no longer ago than the timeout. -/
def WdgFed (σ : WdgSys F) : Prop := σ.sinceFeed ≤ wdgTimeoutMs

/-- The configuration that the iteration applies, if any, has an effective period of at most the
timeout. -/
def KeepsFeeding (d : FlashDriver F) (σ : WdgSys F) (i : WdgInput) : Prop :=
  ∀ p, appliedPeriod d (deliverUart σ.loop.node i.uart) = some p → p ≤ wdgTimeoutMs

/-! ## One pass of the scheduler -/

theorem schedAdvance_due (a : UInt32) {i : Nat} {p : UInt32} (fn : McuTask)
    (hi : i + p.toNat < 2147483648) (hp : 0 < p.toNat) :
    schedAdvance ⟨p, msAfter a i, fn⟩ (msAfter a i) = ⟨p, msAfter a (i + p.toNat), fn⟩ := by
  -- one period after a time that is not late is in the future
  have hnot : ¬ i + p.toNat ≤ i := by omega
  rw [schedAdvance_msAfter a fn (by omega) hi, if_neg hnot]

/-- The part of a pass after the control task: the logger changes nothing and the Modbus task, due
every millisecond, runs. -/
theorem schedRunTasks_loggerModbus (lut : DewpointLut) (d : FlashDriver F) (i : McuInput)
    (l : SchedTask McuTask) (hl : l.fn = .logger) (a : UInt32) {k : Nat} (hk : k < 1000000)
    (hnow : i.nowMs = msAfter a k) (n : Node F) :
    ∃ l', l'.fn = .logger ∧
      schedRunTasks (mcuExec lut d i) i.nowMs [l, ⟨1, i.nowMs, .modbus⟩] n =
        .ok ⟨[l', ⟨1, msAfter a (k + 1), .modbus⟩], modbusTask d i n, true⟩ := by
  have hdue : schedIsDue i.nowMs i.nowMs = true := by
    rw [hnow, schedIsDue_msAfter a (by omega) (by omega)]
    exact decide_eq_true (Nat.le_refl k)
  have hone : (1 : UInt32).toNat = 1 := rfl
  have hadv : schedAdvance ⟨1, i.nowMs, .modbus⟩ i.nowMs =
      ⟨1, msAfter a (k + 1), McuTask.modbus⟩ := by
    rw [hnow, schedAdvance_due a .modbus (by omega) (by decide), hone]
  have hmodbus : schedRunTasks (mcuExec lut d i) i.nowMs [⟨1, i.nowMs, .modbus⟩] n =
      .ok ⟨[⟨1, msAfter a (k + 1), .modbus⟩], modbusTask d i n, true⟩ := by
    simp only [schedRunTasks, hdue, if_true, mcuExec, checked_ok_bind, checked_pure, hadv]
  rw [schedRunTasks]
  -- the logger runs every 10 ms, but its turn leaves the node as it is
  cases hl' : schedIsDue i.nowMs l.nextMs with
  | false =>
      refine ⟨l, hl, ?_⟩
      simp only [Bool.false_eq_true, if_false, hmodbus, checked_ok_bind, checked_pure]
  | true =>
      refine ⟨schedAdvance l i.nowMs, hl, ?_⟩
      simp only [if_true, hl, mcuExec, checked_ok_bind, hmodbus, checked_pure]

/-! ## The loop and the gates -/

/-- The loop `σ` has the gates `g`. -/
structure GatesOf (σ : WdgSys F) (g : Gates) : Prop where
  inv : CtrlInv σ.loop.node.sys.app.ctrl
  required : σ.loop.node.sys.app.requiredTickets = ticketControl ||| ticketComm
  quiet : ∀ s, σ.loop.node.srv = some s → s.event = .none
  bounded : g.Bounded
  period : σ.loop.node.sys.app.ctrl.cfg.samplePeriodMs.toNat = g.period
  since : σ.sinceFeed = g.since
  times : ∃ a l, σ.nowMs = msAfter a g.since ∧
    σ.loop.node.sys.app.nextSampleMs = msAfter a g.next ∧ l.fn = .logger ∧
    σ.loop.sched.tasks = [⟨1000, msAfter a (g.since + g.wait), .control⟩, l,
      ⟨1, msAfter a g.since, .modbus⟩]

/-- Whatever is stored, the node boots with the built-in period. -/
theorem samplePeriodMs_mcuBoot (d : FlashDriver F) (plat : Platform) (flash : F)
    (cause : ResetCause) (nowMs : UInt32) :
    (mcuBoot d plat flash cause nowMs).sys.app.ctrl.cfg.samplePeriodMs = 1000 := by
  show (ctrlInitExtended _ _ cause).2.cfg.samplePeriodMs = 1000
  rw [cfg_ctrlInitExtended]
  rfl

theorem gatesOf_wdgStart (d : FlashDriver F) (plat : Platform) (flash : F) (cause : ResetCause) :
    GatesOf (wdgStart d plat flash cause) Gates.boot := by
  have hperiod := samplePeriodMs_mcuBoot d plat flash cause 0
  refine ⟨ctrlInv_initExtended _ _ cause, rfl, nofun, Gates.bounded_boot, ?_, rfl,
    ⟨0, ⟨10, 0, .logger⟩, rfl, rfl, rfl, ?_⟩⟩
  · exact congrArg UInt32.toNat hperiod
  · show (mcuScheduler (mcuBoot d plat flash cause 0)).tasks = _
    rw [mcuScheduler, hperiod]
    rfl

/-- An effective period fits a 16-bit register. -/
theorem appliedPeriod_le {d : FlashDriver F} {n : Node F} {p : Nat}
    (h : appliedPeriod d n = some p) : p ≤ 65535 := by
  simp only [appliedPeriod, Option.bind_eq_some_iff] at h
  obtain ⟨req, -, cfg, -, hp⟩ := h
  split at hp
  · have hlt := cfg.samplePeriodMs.toNat_lt
    rw [← Option.some.inj hp, samplePeriodMs_ctrlEffectiveConfig]
    split
    · decide
    · rw [ctrlCfgOf, UInt16.toNat_toUInt32]
      omega
  · cases hp

/-- The next due time that `app_task` stores is that of the gates. -/
theorem appNextSample_gates {app : App} {a nowMs : UInt32} {g : Gates} (hb : g.Bounded)
    (hnow : nowMs = msAfter a g.since) (hnext : app.nextSampleMs = msAfter a g.next)
    (hperiod : app.ctrl.cfg.samplePeriodMs.toNat = g.period) :
    appNextSample app nowMs = msAfter nowMs g.nextDue := by
  obtain ⟨h₁, h₂, h₃, h₄⟩ := hb
  rw [appNextSample_msAfter (by omega : g.since < 2147483648)
    (by omega : g.next + g.period < 2147483648) hnow hnext hperiod, hnow, ← msAfter_add]
  unfold Gates.nextDue
  split
  · rfl
  · congr 1
    omega

/-- What the control task's turn in a pass leaves of a node whose tickets are cleared. -/
structure ControlPass (g : Gates) (nowMs : UInt32) (n n' : Node F) : Prop where
  inv : CtrlInv n'.sys.app.ctrl
  srv : n'.srv = n.srv
  flash : n'.sys.flash = n.sys.flash
  cfg : n'.sys.app.cfg = n.sys.app.cfg
  ctrlCfg : n'.sys.app.ctrl.cfg = n.sys.app.ctrl.cfg
  required : n'.sys.app.requiredTickets = n.sys.app.requiredTickets
  next : n'.sys.app.nextSampleMs =
    if g.Samples then msAfter nowMs g.nextDue else n.sys.app.nextSampleMs
  tickets : n'.sys.app.ticketMask = if g.Samples then ticketControl else 0

/-- The outer gate is closed: the control task has no turn. -/
theorem controlPass_closed {g : Gates} {n : Node F} (nowMs : UInt32)
    (hinv : CtrlInv n.sys.app.ctrl) (hmask : n.sys.app.ticketMask = 0) (hw : g.wait ≠ 0) :
    ControlPass g nowMs n n := by
  have hs : ¬ g.Samples := fun hs => hw hs.1
  refine ⟨hinv, rfl, rfl, rfl, rfl, rfl, ?_, ?_⟩
  · rw [if_neg hs]
  · rw [if_neg hs, hmask]

/-- The outer gate is open: the control task runs, and samples when the inner gate is open too. -/
theorem controlPass_open {g : Gates} {i : McuInput} {n n' : Node F} {a : UInt32}
    (hf : ControlFacts i n n') (hb : g.Bounded) (hnow : i.nowMs = msAfter a g.since)
    (hnext : n.sys.app.nextSampleMs = msAfter a g.next)
    (hperiod : n.sys.app.ctrl.cfg.samplePeriodMs.toNat = g.period)
    (hmask : n.sys.app.ticketMask = 0) (hw : g.wait = 0) : ControlPass g i.nowMs n n' := by
  obtain ⟨h₁, h₂, h₃, h₄⟩ := hb
  have hdue := appDue_msAfter n.sys.app (by omega : g.since < 2147483648)
    (by omega : g.next < 2147483648) hnow hnext
  refine ⟨hf.inv, hf.srv, hf.flash, hf.cfg, hf.ctrlCfg, hf.required, ?_, ?_⟩
  · by_cases hle : g.next ≤ g.since
    · rw [if_pos ⟨hw, hle⟩, (hf.opened (hdue.trans (decide_eq_true hle))).1]
      exact appNextSample_gates ⟨h₁, h₂, h₃, h₄⟩ hnow hnext hperiod
    · rw [if_neg fun hs => hle hs.2, (hf.closed (hdue.trans (decide_eq_false hle))).1]
  · by_cases hle : g.next ≤ g.since
    · rw [if_pos ⟨hw, hle⟩, (hf.opened (hdue.trans (decide_eq_true hle))).2, hmask]
      rfl
    · rw [if_neg fun hs => hle hs.2, (hf.closed (hdue.trans (decide_eq_false hle))).2, hmask]

/-- A whole pass of the scheduler over a node whose tickets are cleared. -/
theorem schedRunTasks_mcu (lut : DewpointLut) (d : FlashDriver F) (i : McuInput) {g : Gates}
    {a : UInt32} {n : Node F} {l : SchedTask McuTask} (hl : l.fn = .logger)
    (hinv : CtrlInv n.sys.app.ctrl) (hb : g.Bounded) (hnow : i.nowMs = msAfter a g.since)
    (hnext : n.sys.app.nextSampleMs = msAfter a g.next)
    (hperiod : n.sys.app.ctrl.cfg.samplePeriodMs.toNat = g.period)
    (hmask : n.sys.app.ticketMask = 0) :
    ∃ n' l', l'.fn = .logger ∧ ControlPass g i.nowMs n n' ∧
      schedRunTasks (mcuExec lut d i) i.nowMs
          [⟨1000, msAfter a (g.since + g.wait), .control⟩, l, ⟨1, i.nowMs, .modbus⟩] n =
        .ok ⟨[⟨1000, msAfter a (g.since + if g.wait = 0 then 1000 else g.wait), .control⟩, l',
            ⟨1, msAfter a (g.since + 1), .modbus⟩], modbusTask d i n', true⟩ := by
  obtain ⟨h₁, h₂, h₃, h₄⟩ := hb
  have hdue : schedIsDue i.nowMs (msAfter a (g.since + g.wait)) = decide (g.wait = 0) := by
    rw [hnow, schedIsDue_msAfter a (by omega) (by omega)]
    apply decide_eq_decide.2
    omega
  by_cases hw : g.wait = 0
  · -- the control task's turn, then the other two tasks
    obtain ⟨n', hn', hf⟩ := controlTask_facts lut i hinv
    obtain ⟨l', hl', htail⟩ :=
      schedRunTasks_loggerModbus lut d i l hl a (by omega : g.since < 1000000) hnow n'
    refine ⟨n', l', hl', controlPass_open hf ⟨h₁, h₂, h₃, h₄⟩ hnow hnext hperiod hmask hw, ?_⟩
    have hthousand : (1000 : UInt32).toNat = 1000 := rfl
    have hadv : schedAdvance ⟨1000, msAfter a (g.since + g.wait), .control⟩ i.nowMs =
        ⟨1000, msAfter a (g.since + 1000), McuTask.control⟩ := by
      rw [hw, Nat.add_zero, hnow, schedAdvance_due a .control (by rw [hthousand]; omega)
        (by decide), hthousand]
    rw [schedRunTasks, hdue, decide_eq_true hw, if_pos rfl, if_pos hw]
    simp only [mcuExec, hn', checked_ok_bind, htail, checked_pure, hadv]
  · obtain ⟨l', hl', htail⟩ :=
      schedRunTasks_loggerModbus lut d i l hl a (by omega : g.since < 1000000) hnow n
    refine ⟨n, l', hl', controlPass_closed i.nowMs hinv hmask hw, ?_⟩
    rw [schedRunTasks, hdue, decide_eq_false hw, if_neg (by decide), if_neg hw]
    simp only [htail, checked_ok_bind, checked_pure]

/-- The tickets that the two tasks mark are the required ones exactly when a sample was taken. -/
theorem canFeed_tickets (p : Prop) [Decidable p] :
    ((((if p then ticketControl else 0) ||| ticketComm) &&& (ticketControl ||| ticketComm)) ==
      (ticketControl ||| ticketComm)) = decide p := by
  by_cases hp : p
  · rw [if_pos hp, decide_eq_true hp]
    decide
  · rw [if_neg hp, decide_eq_false hp]
    decide

theorem controlTicket_ne_zero_iff (p : Prop) [Decidable p] :
    ((if p then ticketControl else 0) ||| ticketComm) &&& ticketControl ≠ 0 ↔ p := by
  by_cases hp : p
  · rw [if_pos hp]
    exact iff_of_true (by decide) hp
  · rw [if_neg hp]
    exact iff_of_false (by decide) hp

/-- The times of the gates after a tick, whichever instant they are counted from. -/
theorem times_tick {g : Gates} {a nowMs next : UInt32} (newPeriod : Option Nat)
    (hnow : nowMs = msAfter a g.since)
    (hnext : next = if g.Samples then msAfter nowMs g.nextDue else msAfter a g.next) :
    ∃ a', nowMs + 1 = msAfter a' (g.tick newPeriod).since ∧
      next = msAfter a' (g.tick newPeriod).next ∧
      msAfter a (g.since + if g.wait = 0 then 1000 else g.wait) =
        msAfter a' ((g.tick newPeriod).since + (g.tick newPeriod).wait) ∧
      msAfter a (g.since + 1) = msAfter a' (g.tick newPeriod).since := by
  by_cases hs : g.Samples
  · -- the times are counted from this sample on
    refine ⟨nowMs, ?_, ?_, ?_, ?_⟩
    · simp only [Gates.tick, if_pos hs]
      rfl
    · rw [hnext, if_pos hs]
      simp only [Gates.tick, if_pos hs]
    · simp only [Gates.tick, if_pos hs, if_pos hs.1]
      rw [hnow, msAfter_add]
    · simp only [Gates.tick, if_pos hs]
      rw [hnow, msAfter_add]
  · refine ⟨a, ?_, ?_, ?_, ?_⟩
    · simp only [Gates.tick, if_neg hs]
      rw [hnow]
      exact (msAfter_add a g.since 1).symm
    · rw [hnext, if_neg hs]
      simp only [Gates.tick, if_neg hs]
    · simp only [Gates.tick, if_neg hs]
      congr 1
      split <;> omega
    · simp only [Gates.tick, if_neg hs]

/-- The node of a pass: the UART events are delivered and the tickets cleared. -/
def passNode (n : Node F) (events : List UartEvent) : Node F :=
  let n := deliverUart n events
  { n with sys := { n.sys with app := appClearTickets n.sys.app } }

/-- An iteration is a pass over that node, and feeds the watchdog by its result. -/
theorem wdgStep_of_pass (lut : DewpointLut) (d : FlashDriver F) {σ : WdgSys F} (i : WdgInput)
    {r : SchedStep McuTask (Node F)}
    (h : schedRunTasks (mcuExec lut d ⟨σ.nowMs, i.read⟩) σ.nowMs σ.loop.sched.tasks
      (passNode σ.loop.node i.uart) = .ok r) :
    wdgStep lut d σ i =
      .ok ⟨⟨r.state, { σ.loop.sched with tasks := r.tasks }⟩, σ.nowMs + 1,
        if appCanFeedWatchdog r.state.sys.app then 1 else σ.sinceFeed + 1⟩ := by
  have hiter : mcuIterate lut d ⟨σ.nowMs, i.read⟩
      { σ.loop with node := deliverUart σ.loop.node i.uart } =
      .ok (⟨r.state, { σ.loop.sched with tasks := r.tasks }⟩,
        appCanFeedWatchdog r.state.sys.app) := by
    show (schedRunOnce (mcuExec lut d ⟨σ.nowMs, i.read⟩) σ.loop.sched σ.nowMs
      (passNode σ.loop.node i.uart) >>= _) = _
    simp only [schedRunOnce, h, checked_ok_bind, checked_pure]
  simp only [wdgStep, hiter, checked_ok_bind, checked_pure]

/-- One iteration of the loop is one tick of its gates, with the period the iteration applies, and
processes a sample when the gates let one pass. -/
theorem wdgStep_gates (lut : DewpointLut) (d : FlashDriver F) {σ : WdgSys F} {g : Gates}
    (i : WdgInput) (h : GatesOf σ g) :
    ∃ τ, wdgStep lut d σ i = .ok τ ∧
      GatesOf τ (g.tick (appliedPeriod d (deliverUart σ.loop.node i.uart))) ∧
      (SampleProcessed τ ↔ g.Samples) := by
  obtain ⟨a, l, hnow, hnext, hl, htasks⟩ := h.times
  obtain ⟨n, l', hl', hpass, hrun⟩ := schedRunTasks_mcu lut d ⟨σ.nowMs, i.read⟩
    (n := passNode σ.loop.node i.uart) hl h.inv h.bounded hnow hnext h.period rfl
  have hstep := wdgStep_of_pass lut d i (by rw [htasks, ← hnow]; exact hrun)
  have hmod := modbusTask_facts d ⟨σ.nowMs, i.read⟩ hpass.inv
  have happlied : appliedPeriod d n = appliedPeriod d (deliverUart σ.loop.node i.uart) :=
    appliedPeriod_congr d hpass.srv hpass.cfg hpass.flash
  have hrequired : n.sys.app.requiredTickets = ticketControl ||| ticketComm :=
    hpass.required.trans h.required
  have hfeed : appCanFeedWatchdog (modbusTask d ⟨σ.nowMs, i.read⟩ n).sys.app =
      decide g.Samples := by
    simp only [appCanFeedWatchdog, hmod.tickets, hmod.required, hpass.tickets, hrequired,
      canFeed_tickets]
  have hnextSample : (modbusTask d ⟨σ.nowMs, i.read⟩ n).sys.app.nextSampleMs =
      if g.Samples then msAfter σ.nowMs g.nextDue else msAfter a g.next := by
    rw [hmod.nextSample, hpass.next, ← hnext]
    rfl
  -- the times of the next tick, counted from the sample of this one if there was one
  obtain ⟨a', hnow', hnext', hcontrol, hmodbus⟩ :=
    times_tick (appliedPeriod d n) hnow hnextSample
  rw [happlied] at hnow' hnext' hcontrol hmodbus
  refine ⟨_, hstep, ⟨hmod.inv, ?_, hmod.quiet, ?_, ?_, ?_, ?_⟩, ?_⟩
  · exact hmod.required.trans hrequired
  · exact h.bounded.tick fun p hp => appliedPeriod_le hp
  · rw [hmod.period, happlied, hpass.ctrlCfg]
    exact congrArg ((appliedPeriod d (deliverUart σ.loop.node i.uart)).getD ·) h.period
  · simp only [hfeed, decide_eq_true_eq, h.since, Gates.tick]
  · exact ⟨a', l', hnow', hnext', hl', by rw [hcontrol, hmodbus]⟩
  · simp only [SampleProcessed, hmod.tickets, hpass.tickets, controlTicket_ne_zero_iff]

/-! ## Runs -/

/-- An iteration that applies no period above the timeout keeps the gates fed. -/
theorem wdgStep_fed (lut : DewpointLut) (d : FlashDriver F) {σ : WdgSys F} (i : WdgInput)
    (h : ∃ g, GatesOf σ g ∧ g.Fed) (hi : KeepsFeeding d σ i) :
    ∃ τ, wdgStep lut d σ i = .ok τ ∧ ∃ g, GatesOf τ g ∧ g.Fed := by
  obtain ⟨g, hg, hfed⟩ := h
  obtain ⟨τ, hτ, hg', -⟩ := wdgStep_gates lut d i hg
  exact ⟨τ, hτ, _, hg', hfed.tick hi⟩

/-- An iteration without UART traffic handles no request. -/
theorem appliedPeriod_quiet {d : FlashDriver F} {n : Node F}
    (hquiet : ∀ s, n.srv = some s → s.event = .none) :
    appliedPeriod d (deliverUart n []) = none := by
  have hnone : pendingRequest (deliverUart n []) = none := by
    cases hsrv : n.srv with
    | none => simp only [pendingRequest, deliverUart, hsrv, Option.map_none, Option.bind_none]
    | some s => simp [pendingRequest, deliverUart, hsrv, hquiet s hsrv]
  rw [appliedPeriod, hnone, Option.bind_none]

/-- Iterations without UART traffic, whatever the sensor returns, only tick the gates. -/
theorem run_quiet_gates (lut : DewpointLut) (d : FlashDriver F) (read : Err × Sample) (k : Nat) :
    ∀ {σ : WdgSys F} {g : Gates}, GatesOf σ g →
      ∃ τ, run (wdgStep lut d) σ (List.replicate k ⟨[], read⟩) = .ok τ ∧
        GatesOf τ ((fun g : Gates => g.tick none)^[k] g) := by
  induction k with
  | zero => exact fun h => ⟨_, rfl, h⟩
  | succ k ih =>
      intro σ g h
      obtain ⟨σ', hσ', h', -⟩ := wdgStep_gates lut d ⟨[], read⟩ h
      rw [appliedPeriod_quiet h.quiet] at h'
      obtain ⟨τ, hτ, hg⟩ := ih h'
      exact ⟨τ, (run_cons_ok hσ' _).trans hτ, hg⟩

/-- The frame that writes `value` to the sample period register. -/
def sampleWriteFrame (value : UInt16) : List UInt8 :=
  let body := [1, 0x06] ++ putBe16 mbCfgSampleMs ++ putBe16 value
  body ++ crcTail (modbusCrc16 body)

/-- The delivery of that frame. -/
def sampleWrite (value : UInt16) (read : Err × Sample) : WdgInput :=
  ⟨[.rxChunk (sampleWriteFrame value)], read⟩

/-- The request left by the delivery of the frame. -/
theorem pendingRequest_sampleWrite {n : Node F} {value : UInt16} {read : Err × Sample}
    {req : ModbusRequest}
    (h : pendingRequest (deliverUart n (sampleWrite value read).uart) = some req) :
    req = ⟨1, 0x06, putBe16 mbCfgSampleMs ++ putBe16 value⟩ := by
  cases hsrv : n.srv with
  | none =>
      simp only [pendingRequest, deliverUart, hsrv, Option.map_none, Option.bind_none] at h
      cases h
  | some s =>
      let r := modbusParseRequest (sampleWriteFrame value) s.slaveAddr s.request
      have hevent : pendingRequest (deliverUart n (sampleWrite value read).uart) =
          if parseEvent r.1 = .request then some r.2 else none := by
        simp only [pendingRequest, deliverUart, hsrv, Option.map_some, Option.bind_some,
          sampleWrite, List.foldl_cons, List.foldl_nil, modbusUartEventCallback, modbusRxChunk]
        split <;> rfl
      rw [hevent] at h
      split at h
      · next hreq =>
          rw [← Option.some.inj h]
          exact modbusParseRequest_ok ((parseEvent_eq_request_iff r.1).1 hreq)
      · cases h

/-- What the run of an iteration says about the period applied by the next one. -/
theorem appliedPeriod_of_step {lut : DewpointLut} {d : FlashDriver F} {σ τ : WdgSys F}
    {i j : WdgInput} {p : Option Nat} (hτ : wdgStep lut d σ i = .ok τ)
    (h : (wdgStep lut d σ i).toOption.map
      (fun τ => appliedPeriod d (deliverUart τ.loop.node j.uart)) = some p) :
    appliedPeriod d (deliverUart τ.loop.node j.uart) = p := by
  rw [hτ] at h
  exact Option.some.inj h

/-- A write of the sample period register applies at most the written period. -/
theorem keepsFeeding_sampleWrite (d : FlashDriver F) (σ : WdgSys F) {value : UInt16}
    (read : Err × Sample) (hvalue : value.toNat ≤ wdgTimeoutMs) :
    KeepsFeeding d σ (sampleWrite value read) := by
  intro p hp
  simp only [appliedPeriod, Option.bind_eq_some_iff] at hp
  obtain ⟨req, hreq, cfg, hcfg, hp⟩ := hp
  rw [pendingRequest_sampleWrite hreq, requestedConfig_write] at hcfg
  have hwritten : cfg.samplePeriodMs = value ∧ value ≠ 0 := by
    have hon : mbCfgSampleMs ≠ mbCfgMarginOn := by decide
    have hoff : mbCfgSampleMs ≠ mbCfgMarginOff := by decide
    rw [modbusWrittenConfig, if_neg hon, if_neg hoff, if_pos rfl] at hcfg
    split at hcfg
    · cases hcfg
    · next hne => exact ⟨by rw [← Option.some.inj hcfg], hne⟩
  obtain ⟨hperiod, hne⟩ := hwritten
  split at hp
  · have hne' : (ctrlCfgOf cfg).samplePeriodMs ≠ 0 := by
      intro hzero
      apply hne
      rw [← UInt16.toNat_inj, ← hperiod, ← UInt16.toNat_toUInt32]
      exact congrArg UInt32.toNat hzero
    rw [← Option.some.inj hp, samplePeriodMs_ctrlEffectiveConfig, if_neg hne', ctrlCfgOf,
      UInt16.toNat_toUInt32, hperiod]
    exact hvalue
  · cases hp

/-- The watchdog is fed in time along every run from boot in which no iteration applies a
configuration with a sample period above the timeout. -/
theorem watchdog_fed (lut : DewpointLut) (d : FlashDriver F) (plat : Platform) (flash : F)
    (cause : ResetCause) (inputs : List WdgInput)
    (h : StepsMeet (wdgStep lut d) (KeepsFeeding d) (wdgStart d plat flash cause) inputs) :
    AlwaysAlong (wdgStep lut d) WdgFed (wdgStart d plat flash cause) inputs := by
  refine alwaysAlong_of_stepsMeet (I := fun σ => ∃ g, GatesOf σ g ∧ g.Fed) ?_ ?_
    ⟨Gates.boot, gatesOf_wdgStart d plat flash cause, Gates.fed_boot⟩ h
  · rintro σ ⟨g, hg, hfed⟩
    rw [WdgFed, hg.since]
    exact hfed.since_le
  · exact fun σ i hσ hi => wdgStep_fed lut d i hσ hi

end Loop

theorem watchdog_fed_write :
    AlwaysAlong (wdgStep dewpointLnRhQ10 stm32f1Flash) WdgFed
      (wdgStart stm32f1Flash ⟨[], 0⟩ stm32f1Erased .powerOn)
      [⟨[], (.ok, ⟨2000, 5000, 0, .valid⟩)⟩,
        sampleWrite 2000 (.ok, ⟨2000, 5000, 0, .valid⟩)] := by
  refine watchdog_fed dewpointLnRhQ10 stm32f1Flash ⟨[], 0⟩ stm32f1Erased .powerOn _ ⟨?_, ?_⟩
  · intro p hp
    have h0 := gatesOf_wdgStart stm32f1Flash ⟨[], 0⟩ stm32f1Erased .powerOn
    rw [appliedPeriod_quiet h0.quiet] at hp
    cases hp
  · exact fun σ _ => ⟨keepsFeeding_sampleWrite stm32f1Flash σ _ (by decide), fun _ _ => trivial⟩

/-- A write of 3000 right after boot: the second sample is due 3 s after the first one. -/
theorem watchdog_not_fed_after_write :
    ¬ ∀ (F : Type) (lut : DewpointLut) (d : FlashDriver F) (plat : Platform) (flash : F)
      (cause : ResetCause) (inputs : List WdgInput),
      (∀ i ∈ inputs, i.uart = [] ∨ ∃ value ≠ 0, i = sampleWrite value i.read) →
      AlwaysAlong (wdgStep lut d) WdgFed (wdgStart d plat flash cause) inputs := by
  intro h
  let read : Err × Sample := (.ok, ⟨2000, 5000, 0, .valid⟩)
  have h0 := gatesOf_wdgStart stm32f1Flash ⟨[], 0⟩ stm32f1Erased .powerOn
  obtain ⟨σ₁, hσ₁, h₁, -⟩ := wdgStep_gates dewpointLnRhQ10 stm32f1Flash ⟨[], read⟩ h0
  rw [appliedPeriod_quiet h0.quiet] at h₁
  obtain ⟨σ₂, hσ₂, h₂, -⟩ :=
    wdgStep_gates dewpointLnRhQ10 stm32f1Flash (sampleWrite 3000 read) h₁
  have hwrite : appliedPeriod stm32f1Flash
      (deliverUart σ₁.loop.node (sampleWrite 3000 read).uart) = some 3000 :=
    appliedPeriod_of_step hσ₁ (by decide +kernel)
  rw [hwrite] at h₂
  -- the sample at 1000 ms, and two more seconds
  obtain ⟨σ₃, hσ₃, h₃⟩ := run_quiet_gates dewpointLnRhQ10 stm32f1Flash read 999 h₂
  obtain ⟨σ₄, hσ₄, h₄⟩ := run_quiet_gates dewpointLnRhQ10 stm32f1Flash read 2000 h₃
  have hgates : (fun g : Gates => g.tick none)^[999]
      ((Gates.boot.tick none).tick (some 3000)) = ⟨3000, 3000, 1, 999⟩ := by
    have hwritten : (Gates.boot.tick none).tick (some 3000) = ⟨3000, 1000, 2, 998⟩ := by decide
    rw [hwritten]
    exact Gates.tick_none_opening ⟨3000, 1000, 2, 998⟩
  rw [hgates] at h₄
  have hsince : σ₄.sinceFeed = 2001 :=
    h₄.since.trans (Gates.since_starved (by decide) rfl rfl)
  let inputs : List WdgInput :=
    (⟨[], read⟩ :: sampleWrite 3000 read :: List.replicate 999 ⟨[], read⟩) ++
      List.replicate 2000 ⟨[], read⟩
  have hrun : run (wdgStep dewpointLnRhQ10 stm32f1Flash)
      (wdgStart stm32f1Flash ⟨[], 0⟩ stm32f1Erased .powerOn) inputs = .ok σ₄ := by
    refine (run_append_ok ?_ _).trans hσ₄
    rw [run_cons_ok hσ₁, run_cons_ok hσ₂, hσ₃]
  have hadm : ∀ i ∈ inputs, i.uart = [] ∨ ∃ value ≠ 0, i = sampleWrite value i.read := by
    intro i hi
    simp only [inputs, List.mem_append, List.mem_cons, List.mem_replicate] at hi
    rcases hi with (rfl | rfl | ⟨-, rfl⟩) | ⟨-, rfl⟩
    · exact Or.inl rfl
    · exact Or.inr ⟨3000, by decide, rfl⟩
    · exact Or.inl rfl
    · exact Or.inl rfl
  obtain ⟨τ, hτ, hfed⟩ := alwaysAlong_iff_prefix.1 (h Stm32f1Flash dewpointLnRhQ10 stm32f1Flash
    ⟨[], 0⟩ stm32f1Erased .powerOn inputs hadm) inputs (List.prefix_refl _)
  rw [hrun] at hτ
  cases hτ
  rw [WdgFed, hsince] at hfed
  exact absurd hfed (by decide)

end ClimateNode.Application
