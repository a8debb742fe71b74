import ClimateNode.Core.ControllerRefinement
import ClimateNode.Core.Debounce

/-!
# Runs of the controller, seen through the ideal one

Along a run the controller keeps refining the ideal one, so what is known of the ideal controller
is known of the code.

- `ctrl_update_refines_ideal`: from every boot, the reports of every sequence of updates and
  shutdowns are those of the ideal controller;
- `run_after_valid_samples_iff`: from every reachable state, the exact number of valid samples that
  lead to `RUN`;
- `ctrl_update_forgets`: after enough valid samples everything but the relay is a function of the
  samples, and a margin outside the band makes the relay one, too;
- `state_changes_iff`: the state changes that an update can make are twelve.
-/

set_option autoImplicit false

namespace ClimateNode.Core

open ClimateNode.Machine

/-! ## Reports -/

/-- What an update leaves to be read: the returned code and the reported fields. -/
structure CtrlReport where
  err : Err
  state : CtrlState
  relayOn : Bool
  tempCd : TempCd
  rhCp : RhCp
  dewCd : TempCd
  deriving DecidableEq, Repr

def ctrlReport (r : CtrlStep) : CtrlReport where
  err := r.err
  state := r.ctrl.state
  relayOn := r.ctrl.relayOn
  tempCd := r.ctrl.filteredTempCd
  rhCp := r.ctrl.humidityCp
  dewCd := r.ctrl.dewPointCd

/-- What happens to a controller between two boots. -/
inductive CtrlEvent where
  | update (s : Sample)
  | forceShutdown
  deriving DecidableEq, Repr

/-- A controller with its platform and the reports so far. -/
structure CtrlTrace where
  sys : CtrlSys
  reports : List CtrlReport
  deriving DecidableEq, Repr

def ctrlTraceStep (lut : DewpointLut) (t : CtrlTrace) : CtrlEvent → Checked CtrlTrace
  | .update s => do
      let r ← ctrlUpdate lut t.sys.plat t.sys.ctrl s
      pure ⟨⟨r.plat, r.ctrl⟩, t.reports ++ [ctrlReport r]⟩
  | .forceShutdown =>
      let pc := ctrlForceEmergencyShutdown t.sys.plat t.sys.ctrl
      .ok ⟨⟨pc.1, pc.2⟩, t.reports⟩

def idealEvent : CtrlEvent → IdealEvent
  | .update s => .sample (idealReading s)
  | .forceShutdown => .shutdown

/-- A report in unbounded numbers. -/
def CtrlReport.ideal (r : CtrlReport) : IdealReport where
  code := r.err
  mode := idealMode r.state
  relay := r.relayOn
  temp := r.tempCd.toInt
  humidity := r.rhCp.toNat
  dew := r.dewCd.toInt

/-- The ideal controller that the boot `boot` starts. -/
def CtrlBoot.ideal (p : Platform) (boot : CtrlBoot) : IdealController :=
  idealStart (idealConfig (boot.start p).ctrl.cfg) (idealMode (boot.start p).ctrl.state)

section Trace

variable {lut : DewpointLut} {p : Platform} {boot : CtrlBoot}

/-- The trace after the events `es`, beside the ideal controller after the same events. -/
structure TraceRefines (lut : DewpointLut) (p : Platform) (boot : CtrlBoot) (es : List CtrlEvent)
    (t : CtrlTrace) : Prop where
  cfg_eq : t.sys.ctrl.cfg = (boot.start p).ctrl.cfg
  refines : Refines t.sys.ctrl
    (after (idealStep (idealConfig (boot.start p).ctrl.cfg) (idealDew lut)) (boot.ideal p)
      (es.map idealEvent))
  reports : t.reports.map CtrlReport.ideal =
    answers (idealStep (idealConfig (boot.start p).ctrl.cfg) (idealDew lut)) (boot.ideal p)
      (es.map idealEvent)
  notMathFault : ∀ r ∈ t.reports, r.state ≠ .mathFault

theorem Refines.ideal_ctrlReport {r : CtrlStep} {i : IdealController}
    (h : Refines r.ctrl i) : (ctrlReport r).ideal = idealReport i r.err := by
  rw [CtrlReport.ideal, idealReport, h.mode, h.relay, h.temp, h.humidity, h.dew]
  rfl

theorem traceRefines_step {es : List CtrlEvent} {t : CtrlTrace}
    (h : TraceRefines lut p boot es t) (e : CtrlEvent) :
    ∃ t', ctrlTraceStep lut t e = .ok t' ∧ TraceRefines lut p boot (es ++ [e]) t' := by
  cases e with
  | update s =>
      obtain ⟨r, hr, hcfg, hrefines, herr⟩ := refines_update lut t.sys.plat h.refines s
      rw [h.cfg_eq] at hrefines herr
      refine ⟨⟨⟨r.plat, r.ctrl⟩, t.reports ++ [ctrlReport r]⟩, ?_, ?_, ?_, ?_, ?_⟩
      · simp only [ctrlTraceStep, hr, checked_ok_bind, checked_pure]
      · exact hcfg.trans h.cfg_eq
      · rw [List.map_append, after_append]
        exact hrefines
      · -- the report of the update is the answer to the sample
        rw [List.map_append, List.map_append, answers_append, h.reports, List.map_singleton,
          hrefines.ideal_ctrlReport, herr]
        rfl
      · intro rep hrep
        rcases List.mem_append.1 hrep with hrep | hrep
        · exact h.notMathFault rep hrep
        · rw [List.mem_singleton.1 hrep]
          exact hrefines.inv.notMathFault
  | forceShutdown =>
      refine ⟨_, rfl, h.cfg_eq, ?_, ?_, h.notMathFault⟩
      · have hlocked := refines_forceShutdown t.sys.plat h.refines
        rw [h.cfg_eq] at hlocked
        rw [List.map_append, after_append]
        exact hlocked
      · rw [List.map_append, answers_append]
        exact h.reports.trans (List.append_nil _).symm

theorem traceRefines_run (lut : DewpointLut) (p : Platform) (boot : CtrlBoot)
    (es : List CtrlEvent) :
    ∃ t, run (ctrlTraceStep lut) ⟨boot.start p, []⟩ es = .ok t ∧ TraceRefines lut p boot es t := by
  apply run_of_history (A := fun _ => True)
  · exact ⟨rfl, refines_start p boot, rfl, nofun⟩
  · exact fun es t e h _ => traceRefines_step h e
  · exact fun _ _ => trivial

end Trace

/-- From every boot, every sequence of updates and shutdowns returns, and its reports are the
answers of the ideal controller: the ring, the byte streaks and the 32-bit arithmetic are not
visible in them. -/
theorem ctrl_update_refines_ideal (lut : DewpointLut) (p : Platform) (boot : CtrlBoot)
    (es : List CtrlEvent) :
    ∃ t, run (ctrlTraceStep lut) ⟨boot.start p, []⟩ es = .ok t ∧
      t.reports.map CtrlReport.ideal =
        answers (idealStep (idealConfig (boot.start p).ctrl.cfg) (idealDew lut)) (boot.ideal p)
          (es.map idealEvent) ∧
      ∀ r ∈ t.reports, r.state ≠ .mathFault := by
  obtain ⟨t, ht, hrefines⟩ := traceRefines_run lut p boot es
  exact ⟨t, ht, hrefines.reports, hrefines.notMathFault⟩

/-! ## Valid samples in a row -/

/-- A controller that some boot and some sequence of operations lead to. -/
def CtrlReachable (lut : DewpointLut) (σ : CtrlSys) : Prop :=
  ∃ p boot ops, run (ctrlStep lut) (CtrlBoot.start p boot) ops = .ok σ

theorem CtrlReachable.refines {lut : DewpointLut} {σ : CtrlSys} (h : CtrlReachable lut σ) :
    ∃ i, Refines σ.ctrl i := by
  obtain ⟨p, boot, ops, hrun⟩ := h
  refine run_keeps (P := fun σ => ∃ i, Refines σ.ctrl i) (A := fun _ => True) ?_
    (fun _ _ => trivial) ⟨_, refines_start p boot⟩ hrun
  rintro σ op σ' - ⟨i, hi⟩ hstep
  cases op with
  | update s =>
      obtain ⟨r, hr, -, hrefines, -⟩ := refines_update lut σ.plat hi s
      simp only [ctrlStep, hr, checked_ok_bind, checked_pure] at hstep
      cases hstep
      exact ⟨_, hrefines⟩
  | forceShutdown =>
      cases hstep
      exact ⟨_, refines_forceShutdown σ.plat hi⟩
  | reinit boot =>
      cases hstep
      exact ⟨_, refines_start σ.plat boot⟩

/-- The readings of a list of samples. -/
def readings (v : List Sample) : List Reading := v.filterMap idealReading

theorem length_readings {v : List Sample} (hv : ∀ s ∈ v, sampleIsValid s = true) :
    (readings v).length = v.length := by
  induction v with
  | nil => rfl
  | cons s v ih =>
      have hs := idealReading_of_valid (hv s (by simp))
      rw [readings, List.filterMap_cons_some hs, List.length_cons, List.length_cons, ← readings,
        ih fun x hx => hv x (by simp [hx])]

/-- The ideal samples of a list of samples. -/
def idealSamples (v : List Sample) : List IdealEvent := v.map fun s => .sample (idealReading s)

theorem idealSamples_of_valid {v : List Sample} (hv : ∀ s ∈ v, sampleIsValid s = true) :
    idealSamples v = (readings v).map fun r => .sample (some r) := by
  induction v with
  | nil => rfl
  | cons s v ih =>
      have hs := idealReading_of_valid (hv s (by simp))
      rw [readings, List.filterMap_cons_some hs, List.map_cons, ← readings,
        ← ih fun x hx => hv x (by simp [hx]), ← hs]
      rfl

/-- Updates with the samples `v` are the ideal samples of `v`. -/
theorem refines_samples (lut : DewpointLut) {σ : CtrlSys} {i : IdealController}
    (h : Refines σ.ctrl i) (v : List Sample) :
    ∃ τ, run (sampleStep lut) σ v = .ok τ ∧ τ.ctrl.cfg = σ.ctrl.cfg ∧
      Refines τ.ctrl
        (after (idealStep (idealConfig σ.ctrl.cfg) (idealDew lut)) i (idealSamples v)) := by
  apply run_of_history (A := fun _ => True)
    (R := fun v (τ : CtrlSys) => τ.ctrl.cfg = σ.ctrl.cfg ∧
      Refines τ.ctrl
        (after (idealStep (idealConfig σ.ctrl.cfg) (idealDew lut)) i (idealSamples v)))
  · exact ⟨rfl, h⟩
  · rintro v τ s ⟨hcfg, hrefines⟩ -
    obtain ⟨r, hr, hcfg', hrefines', -⟩ := refines_update lut τ.plat hrefines s
    refine ⟨⟨r.plat, r.ctrl⟩, sampleStep_of_update hr, hcfg'.trans hcfg, ?_⟩
    rw [hcfg] at hrefines'
    rw [idealSamples, List.map_append, after_append]
    exact hrefines'
  · exact fun _ _ => trivial

/-- Valid samples are readings of the ideal controller. -/
theorem refines_validSamples (lut : DewpointLut) {σ : CtrlSys} {i : IdealController}
    (h : Refines σ.ctrl i) {v : List Sample} (hv : ∀ s ∈ v, sampleIsValid s = true) :
    ∃ τ, run (sampleStep lut) σ v = .ok τ ∧ τ.ctrl.cfg = σ.ctrl.cfg ∧
      Refines τ.ctrl (afterReadings (idealConfig σ.ctrl.cfg) (idealDew lut) i (readings v)) := by
  obtain ⟨τ, hτ, hcfg, hrefines⟩ := refines_samples lut h v
  rw [idealSamples_of_valid hv] at hrefines
  exact ⟨τ, hτ, hcfg, hrefines⟩

/-- The valid samples in a row that lead from the controller `c` to `RUN`. -/
def samplesNeeded (c : Controller) : Nat :=
  match c.state with
  | .run => 0
  | .sensorFault | .mathFault =>
      c.cfg.recoveryThreshold.toNat - 1 - c.sensorOkStreak.toNat +
        max 1 (5 - c.filter.count.toNat)
  | .init | .warmup | .safe => 5 - c.filter.count.toNat

section Samples

variable {c : Controller} {i : IdealController}

theorem Refines.length_window (h : Refines c i) : i.window.length = c.filter.count.toNat := by
  obtain ⟨w, hw, hi⟩ := h.window
  rw [hi, List.length_map, hw.holds.length_eq]

theorem Refines.samplesNeeded_eq (h : Refines c i) :
    samplesNeeded c = readingsNeeded (idealConfig c.cfg) i := by
  have hlen := h.length_window
  have hrecovered := h.recovered
  have hmode := h.mode
  cases hstate : c.state <;>
    · rw [hstate] at hmode
      simp only [samplesNeeded, readingsNeeded, hstate, hmode, idealMode, hlen, hrecovered,
        idealConfig]

theorem Refines.run_iff (h : Refines c i) : c.state = .run ↔ i.mode = .running := by
  rw [h.mode]
  cases c.state <;> simp [idealMode]

theorem Refines.unlocked (h : Refines c i) (hsafe : c.state ≠ .safe) : i.mode ≠ .locked := by
  intro hmode
  exact hsafe ((h.locked_iff.1 hmode).elim id h.inv.dyingSafe)

end Samples

/-- From every reachable state outside `SAFE`, valid samples in a row lead to `RUN` exactly when
they are as many as needed, which is at most four more than the recovery threshold. -/
theorem run_after_valid_samples_iff {lut : DewpointLut} {σ : CtrlSys} (h : CtrlReachable lut σ)
    (hsafe : σ.ctrl.state ≠ .safe) {v : List Sample} (hv : ∀ s ∈ v, sampleIsValid s = true) :
    ∃ τ, run (sampleStep lut) σ v = .ok τ ∧
      (τ.ctrl.state = .run ↔ samplesNeeded σ.ctrl ≤ v.length) ∧
      samplesNeeded σ.ctrl ≤ σ.ctrl.cfg.recoveryThreshold.toNat + 4 := by
  obtain ⟨i, hi⟩ := h.refines
  obtain ⟨τ, hτ, -, hrefines⟩ := refines_validSamples lut hi hv
  have hmode := mode_after_readings (idealDew lut) hi.idealInv (hi.unlocked hsafe)
    (readings v)
  rw [length_readings hv, ← hi.samplesNeeded_eq] at hmode
  refine ⟨τ, hτ, hrefines.run_iff.trans hmode, ?_⟩
  have hpos := hi.sound.recoveryThreshold
  unfold samplesNeeded
  split <;> omega

/-- A fault during the warm-up, and the first valid sample after it. -/
def faultInWarmup : List CtrlOp :=
  List.replicate 2 (.update ⟨2150, 4500, 0, .valid⟩) ++
    List.replicate 3 (.update ⟨0, 0, 0, .fault⟩) ++ [.update ⟨2150, 4500, 0, .valid⟩]

/-- In `SENSOR_FAULT` with half a filter: four more valid samples lead to `RUN`, three do not. -/
theorem run_after_valid_samples_iff_fault :
    ∃ σ τ ρ,
      run (ctrlStep dewpointLnRhQ10) (CtrlBoot.start ⟨[], 0⟩ (.initExtended 0 none .powerOn))
        faultInWarmup = .ok σ ∧ σ.ctrl.state = .sensorFault ∧
      run (sampleStep dewpointLnRhQ10) σ (List.replicate 4 ⟨2150, 4500, 0, .valid⟩) = .ok τ ∧
      τ.ctrl.state = .run ∧
      run (sampleStep dewpointLnRhQ10) σ (List.replicate 3 ⟨2150, 4500, 0, .valid⟩) = .ok ρ ∧
      ρ.ctrl.state ≠ .run := by
  obtain ⟨σ, hσ, -⟩ := ctrlRun_inv dewpointLnRhQ10 ⟨[], 0⟩ (.initExtended 0 none .powerOn)
    faultInWarmup
  have hend : (run (ctrlStep dewpointLnRhQ10)
      (CtrlBoot.start ⟨[], 0⟩ (.initExtended 0 none .powerOn)) faultInWarmup).toOption.map
        (fun σ => (σ.ctrl.state, samplesNeeded σ.ctrl)) = some (.sensorFault, 4) := by
    decide +kernel
  rw [hσ] at hend
  obtain ⟨hstate, hneeded⟩ := Prod.mk.inj (Option.some.inj hend)
  have hreach : CtrlReachable dewpointLnRhQ10 σ := ⟨_, _, _, hσ⟩
  have hsafe : σ.ctrl.state ≠ .safe := by
    rw [hstate]
    rintro ⟨⟩
  obtain ⟨τ, hτ, hrun, -⟩ := run_after_valid_samples_iff hreach hsafe
    (v := List.replicate 4 ⟨2150, 4500, 0, .valid⟩)
    (List.forall_mem_replicate.2 (Or.inr (by decide)))
  obtain ⟨ρ, hρ, hwait, -⟩ := run_after_valid_samples_iff hreach hsafe
    (v := List.replicate 3 ⟨2150, 4500, 0, .valid⟩)
    (List.forall_mem_replicate.2 (Or.inr (by decide)))
  rw [hneeded] at hrun hwait
  exact ⟨σ, τ, ρ, hσ, hstate, hτ, hrun.2 (by decide), hρ, mt hwait.1 (by decide)⟩

/-! ## Forgetting -/

/-- Everything that decides on the next reports, apart from the filter and the relay, is equal. -/
structure SameReports (c d : Controller) : Prop where
  state : c.state = d.state
  tempCd : c.filteredTempCd = d.filteredTempCd
  rhCp : c.humidityCp = d.humidityCp
  dewCd : c.dewPointCd = d.dewPointCd
  errorStreak : c.sensorErrorStreak = d.sensorErrorStreak
  okStreak : c.sensorOkStreak = d.sensorOkStreak

/-- Controllers with the same configuration that refine ideal ones which differ in the relay at
most. The ideal ones do not count refused samples as the bytes do, so the bytes are equal, too. -/
structure Twins (c d : Controller) : Prop where
  cfg_eq : d.cfg = c.cfg
  errorStreak : d.sensorErrorStreak = c.sensorErrorStreak
  ideal : ∃ i j, Refines c i ∧ Refines d j ∧ SameButRelay i j

/-- Outside `MATH_FAULT` the mode determines the state. -/
theorem idealMode_inj {a b : CtrlState} (ha : a ≠ .mathFault) (hb : b ≠ .mathFault)
    (h : idealMode a = idealMode b) : a = b := by
  cases a <;> cases b <;> simp_all [idealMode]

/-- The byte that counts refused samples, after an update. -/
theorem errorStreak_of_exit {lut : DewpointLut} {p : Platform} {c : Controller}
    {w : List TempCd} {s : Sample} {r : CtrlStep} (hx : UpdateExit lut p c w s r) :
    r.ctrl.sensorErrorStreak =
      if c.state = .safe ∨ c.powerIsDying = true then c.sensorErrorStreak
      else if sampleIsValid s then 0 else c.sensorErrorStreak + 1 := by
  cases hx with
  | locked hlock => rw [if_pos hlock]
  | debounced hlock hs hlt => rw [if_neg hlock, hs, if_neg Bool.false_ne_true]
  | faulted hlock hs hge => rw [if_neg hlock, hs, if_neg Bool.false_ne_true]
  | recovering hlock hs hfault hlt => rw [if_neg hlock, if_pos hs]
  | processed hlock hs hready hp =>
      rw [if_neg hlock, if_pos hs]
      cases hp with
      | warming => rfl
      | running => rfl

section Forgetting

variable {lut : DewpointLut} {c d : Controller} {σ τ : CtrlSys} {v w : List Sample}

theorem Twins.sameReports (h : Twins c d) : SameReports c d := by
  obtain ⟨i, j, hc, hd, hsame⟩ := h.ideal
  have hmode := hsame.mode_eq
  rw [hc.mode, hd.mode] at hmode
  have htemp := hd.temp
  have hhumidity := hd.humidity
  have hdew := hd.dew
  have hrecovered := hd.recovered
  obtain ⟨b, rfl⟩ := hsame
  constructor
  · exact (idealMode_inj hd.inv.notMathFault hc.inv.notMathFault hmode).symm
  · exact Int32.toInt_inj.1 (hc.temp.symm.trans htemp)
  · exact UInt32.toNat_inj.1 (hc.humidity.symm.trans hhumidity)
  · exact Int32.toInt_inj.1 (hc.dew.symm.trans hdew)
  · exact h.errorStreak.symm
  · exact UInt8.toNat_inj.1 (hc.recovered.trans hrecovered.symm)

/-- One sample for both: they stay twins, and equal relays stay equal. -/
theorem Twins.update (lut : DewpointLut) (p q : Platform) (h : Twins c d) (s : Sample) :
    ∃ r r', ctrlUpdate lut p c s = .ok r ∧ ctrlUpdate lut q d s = .ok r' ∧ Twins r.ctrl r'.ctrl ∧
      (c.relayOn = d.relayOn → r.ctrl.relayOn = r'.ctrl.relayOn) := by
  obtain ⟨i, j, hc, hd, hsame⟩ := h.ideal
  obtain ⟨r, hr, hcfg, hrefines, -⟩ := refines_update lut p hc s
  obtain ⟨r', hr', hcfg', hrefines', -⟩ := refines_update lut q hd s
  rw [h.cfg_eq] at hrefines' hcfg'
  obtain ⟨hupdate, -⟩ := hsame.update (idealConfig c.cfg) (idealDew lut) (idealReading s)
  refine ⟨r, r', hr, hr', ⟨hcfg'.trans hcfg.symm, ?_, _, _, hrefines, hrefines', hupdate⟩, ?_⟩
  · -- both are locked or neither is
    obtain ⟨w, x, -, hx, hexit, -⟩ := ctrlUpdate_inv lut p s hc.inv
    obtain ⟨w', x', -, hx', hexit', -⟩ := ctrlUpdate_inv lut q s hd.inv
    rw [hr] at hx
    rw [hr'] at hx'
    cases hx
    cases hx'
    have hlock : (d.state = .safe ∨ d.powerIsDying = true) ↔
        (c.state = .safe ∨ c.powerIsDying = true) := by
      rw [← hd.locked_iff, ← hc.locked_iff, hsame.mode_eq]
    rw [errorStreak_of_exit hexit, errorStreak_of_exit hexit', h.errorStreak]
    simp only [hlock]
  · intro hrelay
    -- with equal relays the two ideal controllers are one
    have heq : i = j := hsame.eq_of_relay (by rw [hc.relay, hd.relay, hrelay])
    rw [← hrefines.relay, ← hrefines'.relay, heq]

/-- The same for the samples `w`. -/
theorem Twins.samples (lut : DewpointLut) (h : Twins σ.ctrl τ.ctrl) (w : List Sample) :
    ∃ ρ ρ', run (sampleStep lut) σ w = .ok ρ ∧ run (sampleStep lut) τ w = .ok ρ' ∧
      Twins ρ.ctrl ρ'.ctrl ∧
      (σ.ctrl.relayOn = τ.ctrl.relayOn → ρ.ctrl.relayOn = ρ'.ctrl.relayOn) := by
  apply run_of_relation (R := fun ρ ρ' : CtrlSys => Twins ρ.ctrl ρ'.ctrl ∧
    (σ.ctrl.relayOn = τ.ctrl.relayOn → ρ.ctrl.relayOn = ρ'.ctrl.relayOn))
  · rintro ρ ρ' s ⟨htwins, hkeeps⟩
    obtain ⟨r, r', hr, hr', htwins', hrelay⟩ := htwins.update lut ρ.plat ρ'.plat s
    exact ⟨_, _, sampleStep_of_update hr, sampleStep_of_update hr', htwins',
      fun h => hrelay (hkeeps h)⟩
  · exact ⟨h, id⟩

/-- As many valid samples as the recovery threshold and four more settle every controller outside
`SAFE`. -/
theorem settled_of_validSamples (h : CtrlReachable lut σ) (hsafe : σ.ctrl.state ≠ .safe)
    (hv : ∀ s ∈ v, sampleIsValid s = true)
    (hlong : σ.ctrl.cfg.recoveryThreshold.toNat + 4 ≤ v.length) :
    ∃ τ j, run (sampleStep lut) σ v = .ok τ ∧ τ.ctrl.cfg = σ.ctrl.cfg ∧ Refines τ.ctrl j ∧
      Settled (idealDew lut) (readings v) j := by
  obtain ⟨i, hi⟩ := h.refines
  obtain ⟨τ, hτ, hcfg, hτr⟩ := refines_validSamples lut hi hv
  have hignored : readingsIgnored (idealConfig σ.ctrl.cfg) i ≤
      σ.ctrl.cfg.recoveryThreshold.toNat - 1 := readingsIgnored_le _ i
  have hpos := hi.sound.recoveryThreshold
  have hsettled := settled_afterReadings (idealDew lut) hi.idealInv (hi.unlocked hsafe)
    (v := readings v) (by rw [length_readings hv]; omega)
  exact ⟨τ, _, hτ, hcfg, hτr, hsettled⟩

/-- On a settled controller the relay is a two-threshold switch on the margins, as long as the
samples are valid. -/
theorem relay_of_settled {j : IdealController} (hτ : Refines τ.ctrl j)
    (hj : Settled (idealDew lut) (readings v) j) (hw : ∀ s ∈ w, sampleIsValid s = true)
    {ρ : CtrlSys} (hρ : run (sampleStep lut) τ w = .ok ρ) :
    ρ.ctrl.relayOn =
      settle τ.ctrl.cfg.dewMarginOnCd.toInt τ.ctrl.cfg.dewMarginOffCd.toInt τ.ctrl.relayOn
        (marginsAlong (idealDew lut) (readings v) (readings w)) := by
  obtain ⟨ρ', hρ', -, hρr⟩ := refines_validSamples lut hτ hw
  rw [hρ] at hρ'
  cases hρ'
  rw [← hρr.relay, (hj.relay_afterReadings (idealConfig τ.ctrl.cfg) (readings w)).2, hτ.relay]
  rfl

/-- Settled controllers in `RUN` are twins. -/
theorem twins_of_settled {i j : IdealController} {u : List Reading} (hcfg : d.cfg = c.cfg)
    (hc : Refines c i) (hd : Refines d j) (hi : Settled (idealDew lut) u i)
    (hj : Settled (idealDew lut) u j) : Twins c d := by
  -- in `RUN` the byte is the ideal count, and a settled controller has refused nothing since
  have hrunc := hc.run_iff.2 hi.running
  have hrund := hd.run_iff.2 hj.running
  have herrc := (hc.refused (by rw [hrunc]; exact nofun) (by rw [hrunc]; exact nofun)).1
  have herrd := (hd.refused (by rw [hrund]; exact nofun) (by rw [hrund]; exact nofun)).1
  refine ⟨hcfg, ?_, i, j, hc, hd, hi.sameButRelay hj⟩
  rw [← UInt8.toNat_inj, herrc, herrd, hi.refused, hj.refused]

end Forgetting

/-- Two controllers with the same configuration, whatever led to them: once both have taken the
same valid samples `v`, as many as the recovery threshold and four more, nothing but the relay
tells them apart after any further samples `w`, and equal relays stay equal. When the further
samples are valid, the relays agree exactly when they agreed before or one of the margins was
outside the band. -/
theorem ctrl_update_forgets {lut : DewpointLut} {σ σ' : CtrlSys} (h : CtrlReachable lut σ)
    (h' : CtrlReachable lut σ') (hsafe : σ.ctrl.state ≠ .safe) (hsafe' : σ'.ctrl.state ≠ .safe)
    (hcfg : σ'.ctrl.cfg = σ.ctrl.cfg) {v : List Sample} (hv : ∀ s ∈ v, sampleIsValid s = true)
    (hlong : σ.ctrl.cfg.recoveryThreshold.toNat + 4 ≤ v.length) (w : List Sample) :
    ∃ τ τ' ρ ρ', run (sampleStep lut) σ v = .ok τ ∧ run (sampleStep lut) σ' v = .ok τ' ∧
      run (sampleStep lut) τ w = .ok ρ ∧ run (sampleStep lut) τ' w = .ok ρ' ∧
      SameReports ρ.ctrl ρ'.ctrl ∧
      (τ.ctrl.relayOn = τ'.ctrl.relayOn → ρ.ctrl.relayOn = ρ'.ctrl.relayOn) ∧
      ((∀ s ∈ w, sampleIsValid s = true) →
        (ρ.ctrl.relayOn = ρ'.ctrl.relayOn ↔
          τ.ctrl.relayOn = τ'.ctrl.relayOn ∨
            ∃ m ∈ marginsAlong (idealDew lut) (readings v) (readings w),
              OutsideBand σ.ctrl.cfg.dewMarginOnCd.toInt σ.ctrl.cfg.dewMarginOffCd.toInt m)) := by
  obtain ⟨τ, j, hτ, hcfgτ, hj, hset⟩ := settled_of_validSamples h hsafe hv hlong
  obtain ⟨τ', j', hτ', hcfgτ', hj', hset'⟩ :=
    settled_of_validSamples h' hsafe' hv (by rw [hcfg]; exact hlong)
  have hcfgs : τ'.ctrl.cfg = τ.ctrl.cfg := by rw [hcfgτ, hcfgτ', hcfg]
  obtain ⟨ρ, ρ', hρ, hρ', htwins, hkeeps⟩ :=
    (twins_of_settled hcfgs hj hj' hset hset').samples lut w
  refine ⟨τ, τ', ρ, ρ', hτ, hτ', hρ, hρ', htwins.sameReports, hkeeps, fun hw => ?_⟩
  -- valid samples move both relays by the same switch, each from where it stood after `v`
  have hsound := hj.sound
  rw [relay_of_settled hj hset hw hρ, relay_of_settled hj' hset' hw hρ', hcfgs]
  rw [hcfgτ] at hsound ⊢
  exact settle_eq_settle_iff (Int.le_of_lt hsound.margins) _ _ _

/-- The boots after a power-on and after a first crash, once seven valid samples have come: through
a fault and a recovery they report the same, and humid air settles the relay. -/
theorem ctrl_update_forgets_boots :
    (∃ τ τ' ρ ρ',
      run (sampleStep dewpointLnRhQ10) (CtrlBoot.start ⟨[], 0⟩ (.initExtended 0 none .powerOn))
        (List.replicate 7 ⟨2150, 4500, 0, .valid⟩) = .ok τ ∧
      run (sampleStep dewpointLnRhQ10) (CtrlBoot.start ⟨[], 0⟩ (.initExtended 0 none .watchdog))
        (List.replicate 7 ⟨2150, 4500, 0, .valid⟩) = .ok τ' ∧
      run (sampleStep dewpointLnRhQ10) τ
        (List.replicate 4 ⟨0, 0, 0, .fault⟩ ++ [⟨2150, 9900, 0, .valid⟩]) = .ok ρ ∧
      run (sampleStep dewpointLnRhQ10) τ'
        (List.replicate 4 ⟨0, 0, 0, .fault⟩ ++ [⟨2150, 9900, 0, .valid⟩]) = .ok ρ' ∧
      SameReports ρ.ctrl ρ'.ctrl ∧
      (τ.ctrl.relayOn = τ'.ctrl.relayOn → ρ.ctrl.relayOn = ρ'.ctrl.relayOn)) ∧
    ∃ τ τ' ρ ρ',
      run (sampleStep dewpointLnRhQ10) (CtrlBoot.start ⟨[], 0⟩ (.initExtended 0 none .powerOn))
        (List.replicate 7 ⟨2150, 4500, 0, .valid⟩) = .ok τ ∧
      run (sampleStep dewpointLnRhQ10) (CtrlBoot.start ⟨[], 0⟩ (.initExtended 0 none .watchdog))
        (List.replicate 7 ⟨2150, 4500, 0, .valid⟩) = .ok τ' ∧
      run (sampleStep dewpointLnRhQ10) τ [⟨2150, 9900, 0, .valid⟩] = .ok ρ ∧
      run (sampleStep dewpointLnRhQ10) τ' [⟨2150, 9900, 0, .valid⟩] = .ok ρ' ∧
      SameReports ρ.ctrl ρ'.ctrl ∧ ρ.ctrl.relayOn = ρ'.ctrl.relayOn := by
  have hpower : CtrlReachable dewpointLnRhQ10
      (CtrlBoot.start ⟨[], 0⟩ (.initExtended 0 none .powerOn)) := ⟨_, _, [], rfl⟩
  have hcrash : CtrlReachable dewpointLnRhQ10
      (CtrlBoot.start ⟨[], 0⟩ (.initExtended 0 none .watchdog)) := ⟨_, _, [], rfl⟩
  have hforget := ctrl_update_forgets hpower hcrash (by decide) (by decide) (by decide)
    (v := List.replicate 7 ⟨2150, 4500, 0, .valid⟩)
    (List.forall_mem_replicate.2 (Or.inr (by decide))) (by decide)
  constructor
  · obtain ⟨τ, τ', ρ, ρ', hτ, hτ', hρ, hρ', hsame, hkeeps, -⟩ :=
      hforget (List.replicate 4 ⟨0, 0, 0, .fault⟩ ++ [⟨2150, 9900, 0, .valid⟩])
    exact ⟨τ, τ', ρ, ρ', hτ, hτ', hρ, hρ', hsame, hkeeps⟩
  · obtain ⟨τ, τ', ρ, ρ', hτ, hτ', hρ, hρ', hsame, -, hrelay⟩ :=
      hforget [⟨2150, 9900, 0, .valid⟩]
    refine ⟨τ, τ', ρ, ρ', hτ, hτ', hρ, hρ', hsame, ?_⟩
    -- the margin of the humid sample is below the lower threshold
    exact (hrelay (List.forall_mem_singleton.2 (by decide))).2
      (Or.inr ⟨_, List.mem_singleton.2 rfl, Or.inl (by decide +kernel)⟩)

/-! ## State changes -/

/-- The state changes of an update. -/
def stateChanges : List (CtrlState × CtrlState) :=
  [(.init, .init), (.init, .warmup), (.init, .sensorFault),
   (.warmup, .warmup), (.warmup, .run), (.warmup, .sensorFault),
   (.run, .run), (.run, .sensorFault),
   (.sensorFault, .sensorFault), (.sensorFault, .warmup), (.sensorFault, .run),
   (.safe, .safe)]

/-- The same for the modes. -/
def modeChanges : List (IdealMode × IdealMode) :=
  stateChanges.map fun ab => (idealMode ab.1, idealMode ab.2)

section Changes

variable {cfg : IdealConfig} {dewOf : Int → Nat → Int} {i : IdealController}

variable (dewOf) in
/-- A sample changes the mode of the ideal controller in one of the listed ways. -/
theorem mode_idealUpdate_mem (h : IdealInv cfg i) (reading : Option Reading) :
    (i.mode, (idealUpdate cfg dewOf i reading).1.mode) ∈ modeChanges := by
  by_cases hlocked : i.mode = .locked
  · rw [idealUpdate_locked hlocked, hlocked]
    decide
  cases reading with
  | none =>
      -- a refused sample leaves the mode or makes it faulty
      rw [idealUpdate_refused hlocked]
      by_cases hfault : cfg.faultAfter ≤ i.refused + 1 ∨ i.mode = .faulty
      · rw [idealRefuse_of_fault hfault]
        show (i.mode, IdealMode.faulty) ∈ modeChanges
        cases hmode : i.mode with
        | locked => exact absurd hmode hlocked
        | _ => decide
      · rw [idealRefuse_of_count hfault]
        show (i.mode, i.mode) ∈ modeChanges
        cases i.mode <;> decide
  | some r =>
      by_cases hignored : readingsIgnored cfg i = 0
      · have hprocess := mode_idealProcess cfg dewOf h.length_le r
        rw [idealUpdate_processed hlocked hignored]
        show (i.mode, (idealProcess cfg dewOf i r).mode) ∈ modeChanges
        rw [hprocess]
        cases hmode : i.mode with
        | starting =>
            rw [h.empty hmode]
            decide
        | warming => split <;> decide
        | running =>
            rw [h.full hmode]
            decide
        | faulty => split <;> decide
        | locked => exact absurd hmode hlocked
      · have hmode : i.mode = .faulty := by
          by_contra hmode
          exact hignored (if_neg hmode)
        have hval : readingsIgnored cfg i = cfg.recoverAfter - 1 - i.recovered := if_pos hmode
        rw [idealUpdate_ignored hmode (by omega), hmode]
        decide

theorem mem_stateChanges {a b : CtrlState} (ha : a ≠ .mathFault) (hb : b ≠ .mathFault)
    (h : (idealMode a, idealMode b) ∈ modeChanges) : (a, b) ∈ stateChanges := by
  cases a <;> cases b <;> first | decide | (revert h; decide) | exact absurd rfl ha |
    exact absurd rfl hb

end Changes

/-- The ideal controller after a boot and the samples `v`. -/
def idealAfter (lut : DewpointLut) (p : Platform) (boot : CtrlBoot) (v : List Sample) :
    IdealController :=
  after (idealStep (idealConfig (boot.start p).ctrl.cfg) (idealDew lut)) (boot.ideal p)
    (idealSamples v)

theorem run_sampleStep (lut : DewpointLut) (σ : CtrlSys) (v : List Sample) :
    run (sampleStep lut) σ v = run (ctrlStep lut) σ (v.map .update) := by
  rw [run, run, List.foldlM_map]
  rfl

/-- A state change that the ideal controller makes with the sample `s` after the samples `v`. -/
theorem stateChange_of_ideal (lut : DewpointLut) (boot : CtrlBoot) (v : List Sample) (s : Sample)
    {a b : CtrlState}
    (ha : (idealAfter lut ⟨[], 0⟩ boot v).mode = idealMode a)
    (hb : (idealAfter lut ⟨[], 0⟩ boot (v ++ [s])).mode = idealMode b)
    (hna : a ≠ .mathFault) (hnb : b ≠ .mathFault) :
    ∃ σ s r, CtrlReachable lut σ ∧ σ.ctrl.state = a ∧
      ctrlUpdate lut σ.plat σ.ctrl s = .ok r ∧ r.ctrl.state = b := by
  obtain ⟨σ, hσ, hcfg, hrefines⟩ := refines_samples lut (refines_start ⟨[], 0⟩ boot) v
  obtain ⟨r, hr, -, hrefines', -⟩ := refines_update lut σ.plat hrefines s
  rw [hcfg] at hrefines'
  rw [idealAfter, idealSamples, List.map_append, after_append] at hb
  refine ⟨σ, s, r, ⟨_, boot, _, by rw [← run_sampleStep]; exact hσ⟩, ?_, hr, ?_⟩
  · exact idealMode_inj hrefines.inv.notMathFault hna (hrefines.mode.symm.trans ha)
  · exact idealMode_inj hrefines'.inv.notMathFault hnb (hrefines'.mode.symm.trans hb)

/-- A power-on with both thresholds at one sample. -/
def quickBoot : CtrlBoot :=
  .init (some { controllerDefaults with faultThreshold := 1, recoveryThreshold := 1 })

def someSample : Sample := ⟨2150, 4500, 0, .valid⟩

def refusedSample : Sample := ⟨0, 0, 0, .fault⟩

section QuickBoot

variable (lut : DewpointLut) (n : Nat)

theorem idealAfter_snoc (boot : CtrlBoot) (v : List Sample) (s : Sample) :
    idealAfter lut ⟨[], 0⟩ boot (v ++ [s]) =
      (idealUpdate (idealConfig (boot.start ⟨[], 0⟩).ctrl.cfg) (idealDew lut)
        (idealAfter lut ⟨[], 0⟩ boot v) (idealReading s)).1 := by
  rw [idealAfter, idealSamples, List.map_append, after_append]
  rfl

/-- The ideal controller after `n` accepted samples. -/
theorem idealAfter_some :
    (idealAfter lut ⟨[], 0⟩ quickBoot (List.replicate n someSample)).window.length = min n 5 ∧
      (idealAfter lut ⟨[], 0⟩ quickBoot (List.replicate n someSample)).mode =
        if n = 0 then .starting else if n < 5 then .warming else .running := by
  have hvalid : ∀ s ∈ List.replicate n someSample, sampleIsValid s = true :=
    List.forall_mem_replicate.2 (Or.inr (by decide))
  have hstart := (refines_start ⟨[], 0⟩ quickBoot).idealInv
  have hmodes := mode_after_readings_of_starting (idealDew lut) hstart rfl
    (readings (List.replicate n someSample))
  rw [length_readings hvalid, List.length_replicate] at hmodes
  rw [idealAfter, idealSamples_of_valid hvalid]
  exact hmodes

/-- One refused sample more is a fault, with the window as it was. -/
theorem idealAfter_refused (v : List Sample)
    (h : (idealAfter lut ⟨[], 0⟩ quickBoot v).mode ≠ .locked) :
    (idealAfter lut ⟨[], 0⟩ quickBoot (v ++ [refusedSample])).mode = .faulty ∧
      (idealAfter lut ⟨[], 0⟩ quickBoot (v ++ [refusedSample])).recovered = 0 ∧
      (idealAfter lut ⟨[], 0⟩ quickBoot (v ++ [refusedSample])).window =
        (idealAfter lut ⟨[], 0⟩ quickBoot v).window := by
  have hreading : idealReading refusedSample = none := rfl
  have hone : (idealConfig (quickBoot.start ⟨[], 0⟩).ctrl.cfg).faultAfter = 1 := rfl
  rw [idealAfter_snoc, hreading, idealUpdate_refused h, idealRefuse_of_fault (Or.inl (by omega))]
  exact ⟨rfl, rfl, rfl⟩

theorem mode_idealAfter_some_ne_locked :
    (idealAfter lut ⟨[], 0⟩ quickBoot (List.replicate n someSample)).mode ≠ .locked := by
  rw [(idealAfter_some lut n).2]
  split_ifs <;> exact nofun

/-- An accepted sample ends the fault. -/
theorem mode_idealAfter_recovered :
    (idealAfter lut ⟨[], 0⟩ quickBoot
        (List.replicate n someSample ++ [refusedSample] ++ [someSample])).mode =
      if min n 5 + 1 < 5 then .warming else .running := by
  obtain ⟨hmode, hrecovered, hwindow⟩ :=
    idealAfter_refused lut _ (mode_idealAfter_some_ne_locked lut n)
  have hlen := (idealAfter_some lut n).1
  rw [← hwindow] at hlen
  have hready : readingsIgnored (idealConfig (quickBoot.start ⟨[], 0⟩).ctrl.cfg)
      (idealAfter lut ⟨[], 0⟩ quickBoot (List.replicate n someSample ++ [refusedSample])) = 0 := by
    rw [readingsIgnored, if_pos hmode, hrecovered]
    rfl
  have hreading : idealReading someSample = some ⟨2150, 4500⟩ := rfl
  have hunlocked : (idealAfter lut ⟨[], 0⟩ quickBoot
      (List.replicate n someSample ++ [refusedSample])).mode ≠ .locked := by
    rw [hmode]
    rintro ⟨⟩
  rw [idealAfter_snoc, hreading, idealUpdate_processed hunlocked hready]
  show (idealProcess _ _ _ _).mode = _
  rw [mode_idealProcess _ _ (by omega), hlen]

end QuickBoot

/-- The state changes that updates make in reachable states are exactly the twelve listed ones:
`WARMUP` and `SENSOR_FAULT` alone lead to `RUN`, `RUN` is left for `SENSOR_FAULT` only, and `SAFE`
is not left. -/
theorem state_changes_iff (lut : DewpointLut) (a b : CtrlState) :
    (∃ σ s r, CtrlReachable lut σ ∧ σ.ctrl.state = a ∧
        ctrlUpdate lut σ.plat σ.ctrl s = .ok r ∧ r.ctrl.state = b) ↔
      (a, b) ∈ stateChanges := by
  constructor
  · rintro ⟨σ, s, r, hreach, rfl, hr, rfl⟩
    obtain ⟨i, hi⟩ := hreach.refines
    obtain ⟨r', hr', -, hrefines, -⟩ := refines_update lut σ.plat hi s
    rw [hr] at hr'
    cases hr'
    have hchange := mode_idealUpdate_mem (idealDew lut) hi.idealInv (idealReading s)
    rw [hi.mode, hrefines.mode] at hchange
    exact mem_stateChanges hi.inv.notMathFault hrefines.inv.notMathFault hchange
  · intro h
    have hsome := fun n => (idealAfter_some lut n).2
    have hnext : ∀ n, (idealAfter lut ⟨[], 0⟩ quickBoot
        (List.replicate n someSample ++ [someSample])).mode = _ := fun n => by
      rw [← List.replicate_succ', hsome]
    have hfault := fun n =>
      (idealAfter_refused lut _ (mode_idealAfter_some_ne_locked lut n)).1
    simp only [stateChanges, List.mem_cons, Prod.mk.injEq, List.not_mem_nil, or_false] at h
    rcases h with h | h | h | h | h | h | h | h | h | h | h | h <;> obtain ⟨rfl, rfl⟩ := h
    · exact stateChange_of_ideal lut (.init none) [] refusedSample rfl rfl nofun nofun
    · exact stateChange_of_ideal lut quickBoot _ someSample (hsome 0) (hnext 0) nofun nofun
    · exact stateChange_of_ideal lut quickBoot _ refusedSample (hsome 0) (hfault 0) nofun nofun
    · exact stateChange_of_ideal lut quickBoot _ someSample (hsome 1) (hnext 1) nofun nofun
    · exact stateChange_of_ideal lut quickBoot _ someSample (hsome 4) (hnext 4) nofun nofun
    · exact stateChange_of_ideal lut quickBoot _ refusedSample (hsome 1) (hfault 1) nofun nofun
    · exact stateChange_of_ideal lut quickBoot _ someSample (hsome 5) (hnext 5) nofun nofun
    · exact stateChange_of_ideal lut quickBoot _ refusedSample (hsome 5) (hfault 5) nofun nofun
    · refine stateChange_of_ideal lut quickBoot _ refusedSample (hfault 0) ?_ nofun nofun
      exact (idealAfter_refused lut _ (by rw [hfault 0]; exact nofun)).1
    · exact stateChange_of_ideal lut quickBoot _ someSample (hfault 0)
        (mode_idealAfter_recovered lut 0) nofun nofun
    · exact stateChange_of_ideal lut quickBoot _ someSample (hfault 5)
        (mode_idealAfter_recovered lut 5) nofun nofun
    · exact stateChange_of_ideal lut (.initExtended 2 none .watchdog) [] someSample rfl rfl
        nofun nofun

end ClimateNode.Core
