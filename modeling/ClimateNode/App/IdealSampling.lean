import ClimateNode.App.App
import ClimateNode.Core.ControllerRefinement
import ClimateNode.Core.FaultEpisodes

/-!
# Sampling, ideally

What a sample is above the ideal controller: the reading that the sensor port gives, and unbounded
counters in the place of the diagnostics. A due call of `app_task` updates the controller as the
ideal one is updated (`appTask_refines`), and `diag_record` counts as the unbounded counters do
(`DiagRefines.record`).
-/

set_option autoImplicit false

namespace ClimateNode.Application

open ClimateNode.Core ClimateNode.Service ClimateNode.Machine

/-- Unbounded counters. -/
structure IdealCounts where
  samples : Nat
  faultEvents : Nat
  sensorErrors : Nat
  warmups : Nat
  deriving DecidableEq, Repr

/-- A mode in which the relay is kept safe. -/
def isFaultMode : IdealMode → Bool
  | .starting | .warming | .running => false
  | .faulty | .locked => true

/-- The counters after one more sample, which led from the mode `before` to the mode `now`. -/
def IdealCounts.record (n : IdealCounts) (before now : IdealMode) (code : Err) : IdealCounts where
  samples := n.samples + 1
  faultEvents := n.faultEvents + if isFaultMode now && !isFaultMode before then 1 else 0
  sensorErrors := n.sensorErrors + if code = .sensor then 1 else 0
  warmups := n.warmups + if code = .warmup then 1 else 0

/-- The counters as `uint32_t` shows them. -/
def IdealCounts.wrapped (n : IdealCounts) : IdealCounts where
  samples := n.samples % 4294967296
  faultEvents := n.faultEvents % 4294967296
  sensorErrors := n.sensorErrors % 4294967296
  warmups := n.warmups % 4294967296

/-- What the port said: nothing when it reported an error. -/
def portReading (read : Err × Sample) : Option Reading :=
  if read.1 = .ok then idealReading read.2 else none

/-! ## The counters -/

/-- The counters are the unbounded ones modulo `2^32`, and the last state is the mode. -/
structure DiagRefines (startedMs : UInt32) (d : Diagnostics) (mode : IdealMode) (n : IdealCounts) :
    Prop where
  started : d.startedMs = startedMs
  samples : d.sampleCount = UInt32.ofNat n.samples
  faultEvents : d.faultEvents = UInt32.ofNat n.faultEvents
  sensorErrors : d.sensorErrorCount = UInt32.ofNat n.sensorErrors
  warmups : d.warmupCount = UInt32.ofNat n.warmups
  mode : idealMode d.lastState = mode
  fresh : d.initialized = false → d.lastState = .init

theorem diagRefines_diagInit (startedMs : UInt32) :
    DiagRefines startedMs (diagInit startedMs) .starting ⟨0, 0, 0, 0⟩ :=
  ⟨rfl, rfl, rfl, rfl, rfl, rfl, fun _ => rfl⟩

theorem isFaultMode_idealMode (s : CtrlState) : isFaultMode (idealMode s) = diagIsFaultState s := by
  cases s <;> rfl

/-- A processed sample is counted as by the unbounded counters. -/
theorem DiagRefines.record {startedMs : UInt32} {d : Diagnostics} {mode : IdealMode}
    {n : IdealCounts} (h : DiagRefines startedMs d mode n) (nowMs : UInt32) (state : CtrlState)
    (e : Err) (relayOn : Bool) :
    DiagRefines startedMs (diagRecord d nowMs state e relayOn true) (idealMode state)
      (n.record mode (idealMode state) e) := by
  have hwas : (d.initialized && diagIsFaultState d.lastState) = isFaultMode mode := by
    rw [← h.mode, isFaultMode_idealMode]
    cases hinit : d.initialized with
    | true => rw [Bool.true_and]
    | false =>
        rw [h.fresh hinit]
        rfl
  have hcall := recordCall_processed d
    (show (⟨nowMs, state, e, relayOn, true⟩ : DiagCall).processed = true from rfl)
  rw [recordCall] at hcall
  rw [hcall]
  refine ⟨h.started, ?_, ?_, ?_, ?_, rfl, by rintro ⟨⟩⟩
  · show d.sampleCount + 1 = UInt32.ofNat (n.samples + 1)
    rw [h.samples, UInt32.ofNat_add]
    rfl
  · show countIf d.faultEvents _ = UInt32.ofNat (n.faultEvents + _)
    rw [h.faultEvents, countIf_ofNat, hwas, isFaultMode_idealMode]
  · show countIf d.sensorErrorCount _ = UInt32.ofNat (n.sensorErrors + _)
    rw [h.sensorErrors, countIf_ofNat]
    simp only [decide_eq_true_eq]
  · show countIf d.warmupCount _ = UInt32.ofNat (n.warmups + _)
    rw [h.warmups, countIf_ofNat]
    simp only [decide_eq_true_eq]

/-! ## One sample -/

section Sampling

theorem idealReading_appSample (nowMs : UInt32) (r : Err × Sample) :
    idealReading (appSample nowMs r) = portReading r := by
  obtain ⟨e, s⟩ := r
  by_cases he : e = .ok
  · rw [portReading, if_pos he, appSample, if_neg (not_not_intro he)]
    rfl
  · rw [portReading, if_neg he, appSample, if_pos he, idealReading_of_invalid]
    rfl

variable {F : Type} (lut : DewpointLut) {σ : AppSys F} {i : IdealController}

/-- A due call of `app_task` on an update that returns. -/
theorem appTask_of_update {nowMs : UInt32} {port : Err × Sample} {r : CtrlStep}
    (hdue : appDue σ.app nowMs = true)
    (hr : ctrlUpdate lut σ.plat σ.app.ctrl (appSample nowMs port) = .ok r) :
    ∃ plat relayPrev, appTask lut σ nowMs port =
      .ok ⟨{ σ with
          plat := plat
          app := { σ.app with
            ctrl := r.ctrl
            nextSampleMs := appNextSample σ.app nowMs
            relayPrev := relayPrev } }, r.err, true⟩ := by
  rw [appTask, if_pos hdue, appProcess]
  simp only [hr, checked_ok_bind, checked_pure, appMirrorRelay]
  split
  · exact ⟨_, _, rfl⟩
  · exact ⟨_, _, rfl⟩

theorem reportInRange_ctrlUpdate {p : Platform} {c : Controller} {s : Sample} {r : CtrlStep}
    (hinv : CtrlInv c) (h : ReportInRange c) (hr : ctrlUpdate lut p c s = .ok r) :
    ReportInRange r.ctrl := by
  obtain ⟨w, hw⟩ := hinv.window
  obtain ⟨r', hr', hx⟩ := ctrlUpdate_exit lut p s hw
  rw [hr] at hr'
  cases hr'
  exact reportInRange_exit h hx

/-- A due call of `app_task` updates the controller as the ideal one is updated, whatever the sensor
returns. -/
theorem appTask_refines {nowMs : UInt32} (port : Err × Sample) (hdue : appDue σ.app nowMs = true)
    (h : Refines σ.app.ctrl i) :
    ∃ plat relayPrev, ∃ r : CtrlStep, appTask lut σ nowMs port =
        .ok ⟨{ σ with
            plat := plat
            app := { σ.app with
              ctrl := r.ctrl
              nextSampleMs := appNextSample σ.app nowMs
              relayPrev := relayPrev } }, r.err, true⟩ ∧
      r.ctrl.cfg = σ.app.ctrl.cfg ∧
      Refines r.ctrl
        (idealUpdate (idealConfig σ.app.ctrl.cfg) (idealDew lut) i (portReading port)).1 ∧
      r.err =
        (idealUpdate (idealConfig σ.app.ctrl.cfg) (idealDew lut) i (portReading port)).2 ∧
      (ReportInRange σ.app.ctrl → ReportInRange r.ctrl) := by
  obtain ⟨r, hr, hcfg, hrefines, herr⟩ := refines_update lut σ.plat h (appSample nowMs port)
  obtain ⟨plat, relayPrev, htask⟩ := appTask_of_update lut hdue hr
  rw [idealReading_appSample] at hrefines herr
  exact ⟨plat, relayPrev, r, htask, hcfg, hrefines, herr,
    fun hrange => reportInRange_ctrlUpdate lut h.inv hrange hr⟩

end Sampling

end ClimateNode.Application
