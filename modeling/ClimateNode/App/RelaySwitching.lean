import ClimateNode.App.AppRuns

/-!
# Why the relay switches

Runs of the application with a count of the samples that reached the filter since the last
controller initialisation. `SwitchInv` is the invariant of these runs: the shadow `relay_prev`
differs from the controller's flag only between a re-initialisation and the next processed sample,
the filter holds as many samples as were counted, up to five, and the margins are ordered.
`Switched` says what one operation can do to the relay, and `observeStep_switched` is the step
lemma that all of it comes from.
-/

set_option autoImplicit false

namespace ClimateNode.Application

open ClimateNode.Core ClimateNode.Service ClimateNode.Machine ClimateNode.Platforms

/-- The application with the number of samples accepted since the last controller
initialisation. -/
structure Observed (F : Type) where
  sys : AppSys F
  accepted : Nat

section Observe

variable {F : Type}

/-- A task call accepted its sample: `ctrl_update` fed it to the filter. -/
def AcceptedSample (r : AppTaskStep F) : Prop :=
  r.processed = true ∧ (r.err = .ok ∨ r.err = .warmup)

instance (r : AppTaskStep F) : Decidable (AcceptedSample r) := by
  unfold AcceptedSample
  infer_instance

/-- One operation, with the count. A successful update initialises the controller. -/
def observeStep (lut : DewpointLut) (d : FlashDriver F) (s : Observed F) :
    AppOp → Checked (Observed F)
  | .task nowMs read => do
      let r ← appTask lut s.sys nowMs read
      pure ⟨r.sys, if AcceptedSample r then s.accepted + 1 else s.accepted⟩
  | .update newCfg =>
      let r := appUpdateConfig d s.sys newCfg
      .ok ⟨r.2, if r.1 = .ok then 0 else s.accepted⟩
  | .write regAddr value =>
      match modbusWrittenConfig s.sys.app.cfg regAddr value with
      | none => .ok s
      | some tmpCfg =>
          let r := appUpdateConfig d s.sys (storageFinalize tmpCfg)
          .ok ⟨r.2, if r.1 = .ok then 0 else s.accepted⟩

/-- The application after `app_init`. -/
def observeInit (d : FlashDriver F) (plat : Platform) (flash : F) : Observed F :=
  ⟨appInit d plat flash, 0⟩

/-- The values passed to `platform_relay_set` between two states of a run, newest first. -/
def relaySets (σ τ : AppSys F) : List Bool :=
  τ.plat.relayCalls.take (τ.plat.relayCalls.length - σ.plat.relayCalls.length)

theorem relaySets_eq {σ τ : AppSys F} {calls : List Bool}
    (h : τ.plat.relayCalls = calls ++ σ.plat.relayCalls) : relaySets σ τ = calls := by
  rw [relaySets, h, List.length_append, Nat.add_sub_cancel, List.take_left]

/-- `filtered_temp - dew_point` of the controller. -/
def dewMargin (c : Controller) : Int := c.filteredTempCd.toInt - c.dewPointCd.toInt

/-- The operation is a task call that processed a sample and returned `ERR_OK`. -/
def UpdatedOk (lut : DewpointLut) (σ : AppSys F) (op : AppOp) : Prop :=
  ∃ nowMs read r, op = .task nowMs read ∧ appTask lut σ nowMs read = .ok r ∧
    r.processed = true ∧ r.err = .ok

/-- What an operation that leads from `s` to `t` can do to the relay. -/
structure Switched (lut : DewpointLut) (s t : Observed F) (op : AppOp) : Prop where
  grows : t.sys.plat.relayCalls = relaySets s.sys t.sys ++ s.sys.plat.relayCalls
  ordered : t.sys.app.ctrl.cfg.dewMarginOnCd < t.sys.app.ctrl.cfg.dewMarginOffCd
  /-- A switch-on comes from a task call that read a valid sample without an error. -/
  read : true ∈ relaySets s.sys t.sys →
    ∃ nowMs smp, op = .task nowMs (.ok, smp) ∧ sampleIsValid smp = true
  on : true ∈ relaySets s.sys t.sys → UpdatedOk lut s.sys op ∧ 5 ≤ t.accepted ∧
    dewMargin t.sys.app.ctrl < t.sys.app.ctrl.cfg.dewMarginOnCd.toInt
  off : false ∈ relaySets s.sys t.sys → UpdatedOk lut s.sys op →
    t.sys.app.ctrl.cfg.dewMarginOffCd.toInt < dewMargin t.sys.app.ctrl

/-- The invariant of the observed runs. -/
structure SwitchInv (s : Observed F) : Prop where
  ctrl : CtrlInv s.sys.app.ctrl
  safeOff : s.sys.app.ctrl.cfg.relaySafeState = false
  ordered : s.sys.app.ctrl.cfg.dewMarginOnCd < s.sys.app.ctrl.cfg.dewMarginOffCd
  count : s.sys.app.ctrl.filter.count.toNat = min s.accepted 5
  /-- Only a re-initialisation while the relay is on separates the shadow from the flag. -/
  shadow : s.sys.app.relayPrev = s.sys.app.ctrl.relayOn ∨
    (s.sys.app.ctrl.relayOn = false ∧ s.accepted = 0)

/-! ## Initialisation and configuration -/

/-- `ctrl_init` never keeps inverted margins. -/
theorem dewMargins_ordered (cfg : ControllerConfig) :
    (ctrlEffectiveConfig cfg).dewMarginOnCd < (ctrlEffectiveConfig cfg).dewMarginOffCd := by
  have h := dewMargins_ctrlEffectiveConfig cfg
  by_cases hlt : cfg.dewMarginOnCd < cfg.dewMarginOffCd
  · rw [if_pos hlt] at h
    obtain ⟨hon, hoff⟩ := Prod.mk.inj h
    rwa [hon, hoff]
  · rw [if_neg hlt] at h
    obtain ⟨hon, hoff⟩ := Prod.mk.inj h
    rw [hon, hoff]
    decide

theorem switchInv_observeInit (d : FlashDriver F) (plat : Platform) (flash : F) :
    SwitchInv (observeInit d plat flash) where
  ctrl := ctrlInv_init _
  safeOff := rfl
  ordered := dewMargins_ordered _
  count := rfl
  shadow := Or.inl rfl

variable {lut : DewpointLut} {d : FlashDriver F} {s : Observed F} {op : AppOp}

/-- An operation that re-initialises the controller starts the count again. -/
theorem observeStep_of_reinits (lut : DewpointLut) (h : ReinitsController d s.sys op) :
    ∃ flash cfg, observeStep lut d s op = .ok ⟨{ s.sys with
      flash := flash
      app := { s.sys.app with cfg := cfg, ctrl := ctrlInit (some (ctrlCfgOf cfg)) } }, 0⟩ := by
  cases op with
  | task nowMs read => exact h.elim
  | update newCfg =>
      refine ⟨(d.write s.sys.flash 0 newCfg).2, newCfg, ?_⟩
      simp only [observeStep, appUpdateConfig_of_applies h, if_true]
  | write regAddr value =>
      obtain ⟨cfg, hcfg, happ⟩ := h
      refine ⟨(d.write s.sys.flash 0 (storageFinalize cfg)).2, storageFinalize cfg, ?_⟩
      simp only [observeStep, hcfg, appUpdateConfig_of_applies happ, if_true]

/-- Any other update or write keeps the controller, the shadow, the platform and the count. -/
theorem observeStep_of_not_reinits (lut : DewpointLut) (s : Observed F) (op : AppOp)
    (hop : ∀ nowMs read, op ≠ .task nowMs read) (h : ¬ ReinitsController d s.sys op) :
    ∃ flash cfg, observeStep lut d s op = .ok ⟨{ s.sys with
      flash := flash
      app := { s.sys.app with cfg := cfg } }, s.accepted⟩ := by
  cases op with
  | task nowMs read => exact absurd rfl (hop nowMs read)
  | update newCfg =>
      obtain ⟨flash, cfg, heq⟩ := appUpdateConfig_of_not_applies h
      refine ⟨flash, cfg, ?_⟩
      simp only [observeStep, if_neg (mt appUpdateConfig_eq_ok_iff.1 h), heq]
  | write regAddr value =>
      cases hcfg : modbusWrittenConfig s.sys.app.cfg regAddr value with
      | none => exact ⟨s.sys.flash, s.sys.app.cfg, by simp only [observeStep, hcfg]⟩
      | some tmpCfg =>
          have hnot : ¬ AppliesConfig d s.sys.flash (storageFinalize tmpCfg) :=
            fun happ => h ⟨tmpCfg, hcfg, happ⟩
          obtain ⟨flash, cfg, heq⟩ := appUpdateConfig_of_not_applies hnot
          refine ⟨flash, cfg, ?_⟩
          simp only [observeStep, hcfg, if_neg (mt appUpdateConfig_eq_ok_iff.1 hnot), heq]

/-! ## A task call -/

section TaskCall

variable {w : List TempCd} {smp : Sample} {r : CtrlStep}

variable {p : Platform} {c : Controller}

/-- An update switches the relay on only with a full window and a margin below the lower
threshold. -/
theorem switchOn_of_exit (hx : UpdateExit lut p c w smp r) (hsafe : c.cfg.relaySafeState = false)
    (hoff : c.relayOn = false) (hon : r.ctrl.relayOn = true) :
    sampleIsValid smp = true ∧ r.err = .ok ∧ dewMargin r.ctrl < c.cfg.dewMarginOnCd.toInt := by
  have hsafe' : c.cfg.relaySafeState ≠ true := by
    rw [hsafe]
    exact Bool.false_ne_true
  have hoff' : c.relayOn ≠ true := by
    rw [hoff]
    exact Bool.false_ne_true
  cases hx with
  | locked => exact absurd hon hsafe'
  | debounced => exact absurd hon hoff'
  | faulted => exact absurd hon hsafe'
  | recovering => exact absurd hon hoff'
  | processed hlock hs hready hp =>
      cases hp with
      | warming => exact absurd hon hsafe'
      | running f avg dew marginCd hwin hlen havg hdew hmargin =>
          -- from off, the decision is the comparison with the lower threshold
          have hlt : marginCd < c.cfg.dewMarginOnCd := by simpa [relayDecision, hoff] using hon
          refine ⟨hs, rfl, ?_⟩
          show avg.toInt - dew.toInt < _
          rw [← hmargin]
          exact Int32.lt_iff_toInt_lt.1 hlt

/-- An update that returns `ERR_OK` switches the relay off only with a margin above the upper
threshold. -/
theorem switchOff_of_exit (hx : UpdateExit lut p c w smp r) (hok : r.err = .ok)
    (hon : c.relayOn = true) (hoff : r.ctrl.relayOn = false) :
    c.cfg.dewMarginOffCd.toInt < dewMargin r.ctrl := by
  cases hx with
  | locked => cases hok
  | debounced => cases hok
  | faulted => cases hok
  | recovering => cases hok
  | processed hlock hs hready hp =>
      cases hp with
      | warming => cases hok
      | running f avg dew marginCd hwin hlen havg hdew hmargin =>
          have hgt : c.cfg.dewMarginOffCd < marginCd := by simpa [relayDecision, hon] using hoff
          show _ < avg.toInt - dew.toInt
          rw [← hmargin]
          exact Int32.lt_iff_toInt_lt.1 hgt

/-- The filter gains the sample exactly when the update returns `ERR_OK` or `ERR_WARMUP`, and it is
full when the update returns `ERR_OK`. -/
theorem count_of_exit (hx : UpdateExit lut p c w smp r) (hw : SensorWindow c.filter w) :
    r.ctrl.filter.count.toNat =
        (if r.err = .ok ∨ r.err = .warmup then min (c.filter.count.toNat + 1) 5
          else c.filter.count.toNat) ∧
      (r.err = .ok → r.ctrl.filter.count.toNat = 5) := by
  have hkept : ∀ e : Err, e ≠ .ok → e ≠ .warmup →
      c.filter.count.toNat =
          (if e = .ok ∨ e = .warmup then min (c.filter.count.toNat + 1) 5
            else c.filter.count.toNat) ∧ (e = .ok → c.filter.count.toNat = 5) := by
    intro e h₁ h₂
    rw [if_neg (by rintro (h | h) <;> contradiction)]
    exact ⟨rfl, fun h => absurd h h₁⟩
  cases hx with
  | locked => exact hkept .hw (by decide) (by decide)
  | debounced => exact hkept .sensor (by decide) (by decide)
  | faulted => exact hkept .sensor (by decide) (by decide)
  | recovering => exact hkept .notReady (by decide) (by decide)
  | processed hlock hs hready hp =>
      have hlen := hw.holds.length_eq
      have hle : w.length ≤ 5 := by
        rw [hlen]
        exact hw.holds.count_le
      have hpush := length_pushWindow hle (by decide) smp.tempCd
      rw [hlen] at hpush
      cases hp with
      | warming f avg hwin hshort havg =>
          refine ⟨?_, nofun⟩
          rw [if_pos (Or.inr rfl)]
          exact hwin.holds.length_eq.symm.trans hpush
      | running f avg dew marginCd hwin hfull havg hdew hmargin =>
          have hcount : f.count.toNat = (pushWindow 5 w smp.tempCd).length :=
            hwin.holds.length_eq.symm
          refine ⟨?_, fun _ => hcount.trans hfull⟩
          rw [if_pos (Or.inl rfl)]
          exact hcount.trans hpush

/-- A sample that passes validation was read without an error. -/
theorem read_of_appSample_valid {nowMs : UInt32} {read : Err × Sample}
    (h : sampleIsValid (appSample nowMs read) = true) :
    read.1 = .ok ∧ sampleIsValid read.2 = true := by
  obtain ⟨hq, htemp, hrh⟩ := (sampleIsValid_iff _).1 h
  by_cases hread : read.1 = .ok
  · simp only [appSample, hread, ne_eq, not_true_eq_false, if_false] at hq htemp hrh
    exact ⟨hread, (sampleIsValid_iff _).2 ⟨hq, htemp, hrh⟩⟩
  · simp [appSample, hread] at hq

end TaskCall

/-! ## One operation -/

/-- An operation without a relay call. -/
theorem switched_of_quiet {t : Observed F} (hcalls : t.sys.plat.relayCalls = s.sys.plat.relayCalls)
    (hordered : t.sys.app.ctrl.cfg.dewMarginOnCd < t.sys.app.ctrl.cfg.dewMarginOffCd) :
    Switched lut s t op := by
  have hsets : relaySets s.sys t.sys = [] := relaySets_eq hcalls
  have hnone : ∀ b, b ∉ relaySets s.sys t.sys := by
    intro b
    rw [hsets]
    exact List.not_mem_nil
  refine ⟨by rw [hsets, hcalls, List.nil_append], hordered, fun h => absurd h (hnone _),
    fun h => absurd h (hnone _), fun h => absurd h (hnone _)⟩

/-- What a call that processes a sample leaves, and the relay calls it makes. -/
structure TaskEffect (σ : AppSys F) (u : CtrlStep) (r : AppTaskStep F) : Prop where
  ctrl : r.sys.app.ctrl = u.ctrl
  shadow : r.sys.app.relayPrev = u.ctrl.relayOn
  calls : r.sys.plat.relayCalls =
    (if u.ctrl.relayOn ≠ σ.app.relayPrev then [u.ctrl.relayOn] else []) ++ σ.plat.relayCalls
  err : r.err = u.err
  processed : r.processed = true

theorem appTask_effect (lut : DewpointLut) {σ : AppSys F} {nowMs : UInt32} (read : Err × Sample)
    (hdue : appDue σ.app nowMs = true) (hinv : CtrlInv σ.app.ctrl) :
    ∃ w u r, SensorWindow σ.app.ctrl.filter w ∧
      UpdateExit lut σ.plat σ.app.ctrl w (appSample nowMs read) u ∧ CtrlInv u.ctrl ∧
      appTask lut σ nowMs read = .ok r ∧ TaskEffect σ u r := by
  obtain ⟨w, u, hw, hx, hinv', htask⟩ := appTask_due lut read hdue hinv
  refine ⟨w, u, _, hw, hx, hinv', htask, rfl, rfl, ?_, rfl, rfl⟩
  have hcalls := (relayCalls_cfg_of_exit hx).1
  by_cases hrelay : u.ctrl.relayOn = σ.app.relayPrev
  · simp [hrelay, hcalls]
  · simp [hrelay, hcalls]

section DueCall

variable {nowMs : UInt32} {read : Err × Sample} {w : List TempCd} {u : CtrlStep}
  {r : AppTaskStep F}

/-- A call passes the new flag, and the shadow was its opposite. -/
theorem TaskEffect.mem_relaySets {σ : AppSys F} (he : TaskEffect σ u r) {b : Bool}
    (hb : b ∈ relaySets σ r.sys) : u.ctrl.relayOn = b ∧ σ.app.relayPrev = !b := by
  rw [relaySets_eq he.calls] at hb
  by_cases hne : u.ctrl.relayOn ≠ σ.app.relayPrev
  · rw [if_pos hne, List.mem_singleton] at hb
    rw [← hb] at hne
    exact ⟨hb.symm, by rw [Bool.eq_not]; exact hne.symm⟩
  · rw [if_neg hne] at hb
    cases hb

/-- The filter holds the samples accepted so far, five at most and five after an `ERR_OK`. -/
theorem count_of_task (h : SwitchInv s) (hw : SensorWindow s.sys.app.ctrl.filter w)
    (hx : UpdateExit lut s.sys.plat s.sys.app.ctrl w (appSample nowMs read) u)
    (he : TaskEffect s.sys u r) :
    u.ctrl.filter.count.toNat = min (if AcceptedSample r then s.accepted + 1 else s.accepted) 5 ∧
      (u.err = .ok → 5 ≤ if AcceptedSample r then s.accepted + 1 else s.accepted) := by
  obtain ⟨hcount, hfull⟩ := count_of_exit hx hw
  have hmin : u.ctrl.filter.count.toNat =
      min (if AcceptedSample r then s.accepted + 1 else s.accepted) 5 := by
    simp only [AcceptedSample, he.processed, he.err, true_and]
    rw [hcount, h.count]
    split
    · omega
    · rfl
  refine ⟨hmin, fun herr => ?_⟩
  have hfive := hfull herr
  rw [hmin] at hfive
  exact min_eq_right_iff.1 hfive

/-- A call that switches the relay on finds it off. -/
theorem switchOn_of_task (h : SwitchInv s)
    (hx : UpdateExit lut s.sys.plat s.sys.app.ctrl w (appSample nowMs read) u)
    (he : TaskEffect s.sys u r) (hset : true ∈ relaySets s.sys r.sys) :
    sampleIsValid (appSample nowMs read) = true ∧ u.err = .ok ∧
      dewMargin u.ctrl < s.sys.app.ctrl.cfg.dewMarginOnCd.toInt := by
  obtain ⟨hon, hprev⟩ := he.mem_relaySets hset
  have hwasOff : s.sys.app.ctrl.relayOn = false := by
    rcases h.shadow with hshadow | ⟨hoff, -⟩
    · exact hshadow.symm.trans hprev
    · exact hoff
  exact switchOn_of_exit hx h.safeOff hwasOff hon

/-- A call that switches the relay off with `ERR_OK` finds it on. -/
theorem switchOff_of_task (h : SwitchInv s) (hw : SensorWindow s.sys.app.ctrl.filter w)
    (hx : UpdateExit lut s.sys.plat s.sys.app.ctrl w (appSample nowMs read) u)
    (he : TaskEffect s.sys u r) (hset : false ∈ relaySets s.sys r.sys) (herr : u.err = .ok) :
    s.sys.app.ctrl.cfg.dewMarginOffCd.toInt < dewMargin u.ctrl := by
  obtain ⟨hoff, hprev⟩ := he.mem_relaySets hset
  rcases h.shadow with hshadow | ⟨-, hzero⟩
  · exact switchOff_of_exit hx herr (hshadow.symm.trans hprev) hoff
  · -- right after a re-initialisation the filter is empty, so the update is no `ERR_OK`
    have hfive := (count_of_task h hw hx he).2 herr
    rw [hzero] at hfive
    split at hfive <;> omega

/-- A task call that processes a sample. -/
theorem observeStep_due (lut : DewpointLut) (d : FlashDriver F) (h : SwitchInv s)
    (hdue : appDue s.sys.app nowMs = true) :
    ∃ t, observeStep lut d s (.task nowMs read) = .ok t ∧ SwitchInv t ∧
      Switched lut s t (.task nowMs read) := by
  obtain ⟨w, u, r, hw, hx, hinv, htask, he⟩ := appTask_effect lut read hdue h.ctrl
  obtain ⟨-, hcfg⟩ := relayCalls_cfg_of_exit hx
  have hordered : r.sys.app.ctrl.cfg.dewMarginOnCd < r.sys.app.ctrl.cfg.dewMarginOffCd := by
    rw [he.ctrl, hcfg]
    exact h.ordered
  have hok : UpdatedOk lut s.sys (.task nowMs read) → u.err = .ok := by
    rintro ⟨_, _, r', ⟨⟩, htask', -, herr⟩
    obtain rfl := Except.ok.inj (htask.symm.trans htask')
    exact he.err.symm.trans herr
  refine ⟨⟨r.sys, if AcceptedSample r then s.accepted + 1 else s.accepted⟩, ?_, ?_, ?_⟩
  · rw [observeStep, htask, checked_ok_bind, checked_pure]
  · refine ⟨he.ctrl ▸ hinv, ?_, hordered, ?_, Or.inl ?_⟩
    · rw [he.ctrl, hcfg]
      exact h.safeOff
    · rw [he.ctrl]
      exact (count_of_task h hw hx he).1
    · rw [he.shadow, he.ctrl]
  · refine ⟨?_, hordered, fun hset => ?_, fun hset => ?_, fun hset hupdated => ?_⟩
    · rw [relaySets_eq he.calls]
      exact he.calls
    · obtain ⟨hread, hvalid⟩ := read_of_appSample_valid (switchOn_of_task h hx he hset).1
      exact ⟨nowMs, read.2, by rw [← hread], hvalid⟩
    · obtain ⟨-, herr, hmargin⟩ := switchOn_of_task h hx he hset
      refine ⟨⟨nowMs, read, r, rfl, htask, he.processed, he.err.trans herr⟩,
        (count_of_task h hw hx he).2 herr, ?_⟩
      rw [he.ctrl, hcfg]
      exact hmargin
    · rw [he.ctrl, hcfg]
      exact switchOff_of_task h hw hx he hset (hok hupdated)

end DueCall

/-- Every operation returns, keeps the invariant and switches the relay only as `Switched` says. -/
theorem observeStep_switched (lut : DewpointLut) (d : FlashDriver F) (s : Observed F) (op : AppOp)
    (h : SwitchInv s) :
    ∃ t, observeStep lut d s op = .ok t ∧ SwitchInv t ∧ Switched lut s t op := by
  by_cases hr : ReinitsController d s.sys op
  · -- the flag is off afterwards, whatever the shadow is
    obtain ⟨flash, cfg, heq⟩ := observeStep_of_reinits lut hr
    exact ⟨_, heq, ⟨ctrlInv_init _, rfl, dewMargins_ordered _, rfl, Or.inr ⟨rfl, rfl⟩⟩,
      switched_of_quiet rfl (dewMargins_ordered _)⟩
  · cases op with
    | task nowMs read =>
        cases hdue : appDue s.sys.app nowMs with
        | false =>
            refine ⟨s, ?_, h, switched_of_quiet rfl h.ordered⟩
            rw [observeStep, appTask_notDue lut read hdue, checked_ok_bind, checked_pure]
            simp [AcceptedSample]
        | true => exact observeStep_due lut d h hdue
    | update newCfg =>
        obtain ⟨flash, cfg, heq⟩ := observeStep_of_not_reinits lut s _ (by rintro _ _ ⟨⟩) hr
        exact ⟨_, heq, ⟨h.ctrl, h.safeOff, h.ordered, h.count, h.shadow⟩,
          switched_of_quiet rfl h.ordered⟩
    | write regAddr value =>
        obtain ⟨flash, cfg, heq⟩ := observeStep_of_not_reinits lut s _ (by rintro _ _ ⟨⟩) hr
        exact ⟨_, heq, ⟨h.ctrl, h.safeOff, h.ordered, h.count, h.shadow⟩,
          switched_of_quiet rfl h.ordered⟩

/-! ## Runs -/

/-- Every reachable state has the invariant. -/
theorem observeRun_inv (lut : DewpointLut) (d : FlashDriver F) (plat : Platform) (flash : F)
    (ops : List AppOp) :
    ∃ s, run (observeStep lut d) (observeInit d plat flash) ops = .ok s ∧ SwitchInv s := by
  refine run_of_invariant (A := fun _ => True) (switchInv_observeInit d plat flash) ?_ ops
    fun _ _ => trivial
  intro s op h _
  obtain ⟨t, ht, hinv, -⟩ := observeStep_switched lut d s op h
  exact ⟨t, ht, hinv⟩

/-- An operation that does not re-initialise the controller keeps its configuration. -/
theorem observeStep_cfg (lut : DewpointLut) {t : Observed F} (h : SwitchInv s)
    (hr : ¬ ReinitsController d s.sys op) (ht : observeStep lut d s op = .ok t) :
    t.sys.app.ctrl.cfg = s.sys.app.ctrl.cfg := by
  have hconfig : (∀ nowMs read, op ≠ .task nowMs read) →
      t.sys.app.ctrl.cfg = s.sys.app.ctrl.cfg := by
    intro hop
    obtain ⟨flash, cfg, heq⟩ := observeStep_of_not_reinits lut s op hop hr
    rw [heq] at ht
    cases ht
    rfl
  cases op with
  | update newCfg => exact hconfig (by rintro _ _ ⟨⟩)
  | write regAddr value => exact hconfig (by rintro _ _ ⟨⟩)
  | task nowMs read =>
      cases hdue : appDue s.sys.app nowMs with
      | false =>
          rw [observeStep, appTask_notDue lut read hdue, checked_ok_bind, checked_pure] at ht
          cases ht
          rfl
      | true =>
          obtain ⟨w, u, r, -, hx, -, htask, heffect⟩ := appTask_effect lut read hdue h.ctrl
          rw [observeStep, htask, checked_ok_bind, checked_pure] at ht
          cases ht
          show r.sys.app.ctrl.cfg = _
          rw [heffect.ctrl, (relayCalls_cfg_of_exit hx).2]

/-- Neither does a run of such operations change it. -/
theorem observeRun_cfg (lut : DewpointLut) (h : SwitchInv s) {ops : List AppOp}
    (hkept : StepsMeet (observeStep lut d) (fun s op => ¬ ReinitsController d s.sys op) s ops) :
    ∃ t, run (observeStep lut d) s ops = .ok t ∧ SwitchInv t ∧
      t.sys.app.ctrl.cfg = s.sys.app.ctrl.cfg := by
  refine run_of_stepsMeet (R := fun _ t => SwitchInv t ∧
    t.sys.app.ctrl.cfg = s.sys.app.ctrl.cfg) ?_ ⟨h, rfl⟩ hkept
  rintro - t op ⟨ht, hcfg⟩ hr
  obtain ⟨t', hstep, hinv, -⟩ := observeStep_switched lut d t op ht
  exact ⟨t', hstep, hinv, (observeStep_cfg lut ht hr hstep).trans hcfg⟩

/-- `app_init` switches the relay off. Every switch-on of every run from there comes from a valid
sample that was read without an error, with five samples accepted since the last initialisation and
a margin below the lower threshold; every switch-off with `ERR_OK` has a margin above the upper one;
and from the one to the other, without a new configuration in between, the margin has risen by more
than their difference. -/
theorem relay_switching_justified (lut : DewpointLut) (d : FlashDriver F) (plat : Platform)
    (flash : F) :
    (observeInit d plat flash).sys.plat.relayCalls = false :: plat.relayCalls ∧
    (∀ (ops : List AppOp) (op : AppOp),
      ∃ s t, run (observeStep lut d) (observeInit d plat flash) ops = .ok s ∧
        s.sys.app.ctrl.cfg.dewMarginOnCd < s.sys.app.ctrl.cfg.dewMarginOffCd ∧
        observeStep lut d s op = .ok t ∧ Switched lut s t op) ∧
    (∀ (ops mid : List AppOp) (on off : AppOp) (s₀ s₁ s₂ s₃ : Observed F),
      run (observeStep lut d) (observeInit d plat flash) ops = .ok s₀ →
      observeStep lut d s₀ on = .ok s₁ →
      run (observeStep lut d) s₁ mid = .ok s₂ →
      observeStep lut d s₂ off = .ok s₃ →
      true ∈ relaySets s₀.sys s₁.sys →
      StepsMeet (observeStep lut d) (fun s op => ¬ ReinitsController d s.sys op) s₁ mid →
      false ∈ relaySets s₂.sys s₃.sys → UpdatedOk lut s₂.sys off →
      s₁.sys.app.ctrl.cfg.dewMarginOffCd.toInt - s₁.sys.app.ctrl.cfg.dewMarginOnCd.toInt <
        dewMargin s₃.sys.app.ctrl - dewMargin s₁.sys.app.ctrl) := by
  refine ⟨rfl, fun ops op => ?_, ?_⟩
  · obtain ⟨s, hs, hinv⟩ := observeRun_inv lut d plat flash ops
    obtain ⟨t, ht, -, hswitched⟩ := observeStep_switched lut d s op hinv
    exact ⟨s, t, hs, hinv.ordered, ht, hswitched⟩
  · intro ops mid on off s₀ s₁ s₂ s₃ hrun hon hmid hoff hset hkept hclear hupdated
    obtain ⟨s, hs, hinv⟩ := observeRun_inv lut d plat flash ops
    obtain rfl := Except.ok.inj (hs.symm.trans hrun)
    obtain ⟨t, ht, hinv₁, hswitchedOn⟩ := observeStep_switched lut d s on hinv
    obtain rfl := Except.ok.inj (ht.symm.trans hon)
    -- the thresholds are the same at both ends
    obtain ⟨u, hu, hinv₂, hcfg⟩ := observeRun_cfg lut hinv₁ hkept
    obtain rfl := Except.ok.inj (hu.symm.trans hmid)
    obtain ⟨v, hv, -, hswitchedOff⟩ := observeStep_switched lut d u off hinv₂
    obtain rfl := Except.ok.inj (hv.symm.trans hoff)
    have htask : ¬ ReinitsController d u.sys off := by
      obtain ⟨nowMs, read, r, rfl, -⟩ := hupdated
      exact id
    have hcfg' := (observeStep_cfg lut hinv₂ htask hv).trans hcfg
    have hlow := (hswitchedOn.on hset).2.2
    have hhigh := hswitchedOff.off hclear hupdated
    rw [hcfg'] at hhigh
    omega

end Observe

/-- Four samples close to condensation. -/
def dampSamples : List AppOp :=
  [.task 0 (.ok, ⟨2000, 9500, 0, .valid⟩), .task 1000 (.ok, ⟨2000, 9500, 0, .valid⟩),
    .task 2000 (.ok, ⟨2000, 9500, 0, .valid⟩), .task 3000 (.ok, ⟨2000, 9500, 0, .valid⟩)]

/-- The fifth of them switches the relay on, and a dry one after it switches it off. -/
example : (do
    let s₀ ← run (observeStep dewpointLnRhQ10 stm32f1Flash)
      (observeInit stm32f1Flash ⟨[], 0⟩ stm32f1Erased) dampSamples
    let s₁ ← observeStep dewpointLnRhQ10 stm32f1Flash s₀ (.task 4000 (.ok, ⟨2000, 9500, 0, .valid⟩))
    let s₂ ← observeStep dewpointLnRhQ10 stm32f1Flash s₁ (.task 5000 (.ok, ⟨2000, 3000, 0, .valid⟩))
    pure (relaySets s₀.sys s₁.sys, relaySets s₁.sys s₂.sys, dewMargin s₂.sys.app.ctrl -
      dewMargin s₁.sys.app.ctrl) : Checked (List Bool × List Bool × Int)).toOption =
    some ([true], [false], 1728) := by
  decide +kernel

end ClimateNode.Application
