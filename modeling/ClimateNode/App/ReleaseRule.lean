import ClimateNode.App.App
import ClimateNode.App.Scheduler
import ClimateNode.Platform.Flash

/-!
# Two copies of the release rule

The sample gate of `app_task` and the rescheduling of `sched_run_once` move a due time one period on
and start again from now when that is too late. The gate asks whether the new time is before now,
the scheduler whether it is not after now. The two differ when the call comes exactly one period
late (`appNextSample_on_period`): the gate then stores now itself, and a second call at that time
takes another sample. On every other call they agree, `sample_gate_releases_as_scheduler`.
-/

set_option autoImplicit false

namespace ClimateNode.Application

open ClimateNode.Core ClimateNode.Machine ClimateNode.Platforms

variable {F T S : Type}

/-- The application `σ` after a sample at `nowMs` is released as the task `t` after a pass at
`nowMs`: at the same time, strictly after `nowMs` and at most one period ahead, so that a second
call at `nowMs` does nothing. -/
structure SameRelease (lut : DewpointLut) (nowMs periodMs : UInt32) (σ : AppSys F)
    (t : SchedTask T) : Prop where
  stored : σ.app.nextSampleMs = t.nextMs
  later : 0 < (σ.app.nextSampleMs - nowMs).toNat
  within : (σ.app.nextSampleMs - nowMs).toNat ≤ periodMs.toNat
  once : ∀ read, appTask lut σ nowMs read = .ok ⟨σ, .ok, false⟩

/-! ## The two rules -/

section Rules

variable {app : App} {t : SchedTask T} {nowMs : UInt32}

/-- A call at the due time, or after it, passes the gate. -/
theorem appDue_of_late (hnow : (nowMs - app.nextSampleMs).toNat < 2147483648) :
    appDue app nowMs = true := by
  rw [appDue_msAfter app hnow (by decide : 0 < 2147483648) (msAfter_sub _ _).symm
    (msAfter_zero _).symm]
  exact decide_eq_true (Nat.zero_le _)

/-- A call before the due time does not. -/
theorem appDue_of_early (hpos : 0 < (app.nextSampleMs - nowMs).toNat)
    (hlt : (app.nextSampleMs - nowMs).toNat < 2147483648) : appDue app nowMs = false := by
  rw [appDue_msAfter app (by decide : 0 < 2147483648) hlt (msAfter_zero _).symm
    (msAfter_sub _ _).symm]
  exact decide_eq_false (Nat.not_le.2 hpos)

theorem schedIsDue_of_late (hnow : (nowMs - t.nextMs).toNat < 2147483648) :
    schedIsDue nowMs t.nextMs = true := by
  have hdue := schedIsDue_msAfter t.nextMs hnow (by decide : 0 < 2147483648)
  rw [msAfter_sub, msAfter_zero] at hdue
  exact hdue.trans (decide_eq_true (Nat.zero_le _))

/-- The gate starts again from now when the call is more than one period late. -/
theorem appNextSample_late {late p : Nat} (hlate : (nowMs - app.nextSampleMs).toNat = late)
    (hperiod : app.ctrl.cfg.samplePeriodMs.toNat = p) (hnow : late < 2147483648)
    (hp : p ≤ 65535) :
    appNextSample app nowMs = msAfter app.nextSampleMs (if p < late then late + p else p) := by
  have hstored := appNextSample_msAfter (i := late) (j := 0) hnow (by omega)
    (by rw [← hlate, msAfter_sub]) (msAfter_zero app.nextSampleMs).symm hperiod
  rw [Nat.zero_add] at hstored
  rw [hstored, apply_ite (msAfter app.nextSampleMs)]

/-- The scheduler starts again from now when the pass is one period late or more. -/
theorem schedAdvance_late {late p : Nat} (hlate : (nowMs - t.nextMs).toNat = late)
    (hperiod : t.periodMs.toNat = p) (hnow : late < 2147483648) (hp : p ≤ 65535) :
    (schedAdvance t nowMs).nextMs = msAfter t.nextMs (if p ≤ late then late + p else p) := by
  have hadv := schedAdvance_msAfter (p := t.periodMs) t.nextMs (i := late) (j := 0) t.fn hnow
    (by omega)
  rw [← hlate, msAfter_sub, msAfter_zero, Nat.zero_add, hlate, hperiod] at hadv
  rw [hadv, apply_ite (msAfter t.nextMs)]

/-- Exactly one period late, the gate stores now and the scheduler one period from now. -/
theorem appNextSample_on_period {p : Nat} (hlate : (nowMs - app.nextSampleMs).toNat = p)
    (hperiod : app.ctrl.cfg.samplePeriodMs.toNat = p) (hp : p ≤ 65535) :
    appNextSample app nowMs = nowMs := by
  rw [appNextSample_late hlate hperiod (by omega) hp, if_neg (Nat.lt_irrefl p), ← hlate,
    msAfter_sub]

/-- At any other time they store the same. -/
theorem appNextSample_eq_schedAdvance {late p : Nat}
    (hlate : (nowMs - app.nextSampleMs).toNat = late)
    (hperiod : app.ctrl.cfg.samplePeriodMs.toNat = p) (hnow : late < 2147483648) (hp : p ≤ 65535)
    (hnext : t.nextMs = app.nextSampleMs) (hsame : t.periodMs = app.ctrl.cfg.samplePeriodMs)
    (hne : late ≠ p) : appNextSample app nowMs = (schedAdvance t nowMs).nextMs := by
  rw [appNextSample_late hlate hperiod hnow hp,
    schedAdvance_late (by rw [hnext, hlate]) (by rw [hsame, hperiod]) hnow hp, hnext]
  rcases Nat.lt_or_gt_of_ne hne with hlt | hgt
  · rw [if_neg (Nat.lt_asymm hlt), if_neg (Nat.not_le.2 hlt)]
  · rw [if_pos hgt, if_pos (Nat.le_of_lt hgt)]

/-- And it lies after now, by at most the period. -/
theorem appNextSample_ahead {late p : Nat} (hlate : (nowMs - app.nextSampleMs).toNat = late)
    (hperiod : app.ctrl.cfg.samplePeriodMs.toNat = p) (hnow : late < 2147483648) (hpos : 0 < p)
    (hp : p ≤ 65535) (hne : late ≠ p) :
    0 < (appNextSample app nowMs - nowMs).toNat ∧
      (appNextSample app nowMs - nowMs).toNat ≤ p := by
  have hnowMs : nowMs = msAfter app.nextSampleMs late := by rw [← hlate, msAfter_sub]
  rw [appNextSample_late hlate hperiod hnow hp]
  rcases Nat.lt_or_gt_of_ne hne with hlt | hgt
  · -- the next period has not begun yet
    rw [if_neg (Nat.lt_asymm hlt), hnowMs, toNat_msAfter_sub _ (Nat.le_of_lt hlt) (by omega)]
    omega
  · rw [if_pos hgt, hnowMs, toNat_msAfter_sub _ (Nat.le_add_right late p) (by omega)]
    omega

end Rules

/-! ## Calls of the task -/

section Calls

variable {lut : DewpointLut} {σ : AppSys F} {nowMs : UInt32} {read : Err × Sample}

/-- A call that passes the gate and returns has processed a sample and stored the next due time. -/
theorem appTask_stores {r : AppTaskStep F} (hdue : appDue σ.app nowMs = true)
    (h : appTask lut σ nowMs read = .ok r) :
    r.processed = true ∧ r.sys.app.nextSampleMs = appNextSample σ.app nowMs := by
  rw [appTask, if_pos hdue] at h
  obtain ⟨u, -, h⟩ := checked_bind_eq_ok h
  cases h
  refine ⟨rfl, ?_⟩
  simp only [appMirrorRelay]
  split
  · rfl
  · rfl

/-- A time that the scheduler stores too, after now and at most one period ahead, is a release as
the scheduler's. -/
theorem sameRelease_of_stored {t : SchedTask T} {periodMs : UInt32}
    (hstored : σ.app.nextSampleMs = t.nextMs) (hpos : 0 < (σ.app.nextSampleMs - nowMs).toNat)
    (hle : (σ.app.nextSampleMs - nowMs).toNat ≤ periodMs.toNat) (hp : periodMs.toNat ≤ 65535) :
    SameRelease lut nowMs periodMs σ t where
  stored := hstored
  later := hpos
  within := hle
  once := fun read => appTask_notDue lut read (appDue_of_early hpos (by omega))

end Calls

/-- A call of `app_task` that is not early, and a pass of the scheduler at the same time over a task
with the same due time and period: the two release alike if and only if the call does not come
exactly one period late. -/
theorem sample_gate_releases_as_scheduler (lut : DewpointLut) (σ : AppSys F) (nowMs : UInt32)
    (read : Err × Sample) {exec : T → S → Checked S} {s s' : Scheduler T} {st st' : S} {any : Bool}
    {i : Nat} {t : SchedTask T}
    (hperiod : 1 ≤ σ.app.ctrl.cfg.samplePeriodMs.toNat ∧
      σ.app.ctrl.cfg.samplePeriodMs.toNat ≤ 65535)
    (hnow : (nowMs - σ.app.nextSampleMs).toNat < 2147483648)
    (htask : s.tasks[i]? = some t) (hnext : t.nextMs = σ.app.nextSampleMs)
    (hsame : t.periodMs = σ.app.ctrl.cfg.samplePeriodMs)
    (hpass : schedRunOnce exec s nowMs st = .ok (s', st', any)) :
    ∃ t', s'.tasks[i]? = some t' ∧
      (CtrlInv σ.app.ctrl → ∃ r, appTask lut σ nowMs read = .ok r) ∧
      ∀ r, appTask lut σ nowMs read = .ok r → r.processed = true ∧
        (SameRelease lut nowMs σ.app.ctrl.cfg.samplePeriodMs r.sys t' ↔
          nowMs - σ.app.nextSampleMs ≠ σ.app.ctrl.cfg.samplePeriodMs) := by
  have hdue := appDue_of_late hnow
  have htask' := schedRunOnce_of_due htask (schedIsDue_of_late (by rw [hnext]; exact hnow)) hpass
  refine ⟨schedAdvance t nowMs, htask', fun hinv => ?_, fun r hr => ?_⟩
  · obtain ⟨w, r, -, -, -, hr⟩ := appTask_due lut read hdue hinv
    exact ⟨_, hr⟩
  · obtain ⟨hprocessed, hstore⟩ := appTask_stores hdue hr
    refine ⟨hprocessed, ?_⟩
    constructor
    · -- one period late the stored time is now, which is not after now
      intro hrel heq
      have hpos := hrel.later
      rw [hstore, appNextSample_on_period (congrArg UInt32.toNat heq) rfl hperiod.2,
        UInt32.sub_self] at hpos
      exact absurd hpos (Nat.lt_irrefl 0)
    · intro hne
      have hne' : (nowMs - σ.app.nextSampleMs).toNat ≠ σ.app.ctrl.cfg.samplePeriodMs.toNat :=
        fun heq => hne (UInt32.toNat_inj.1 heq)
      obtain ⟨hpos, hle⟩ := appNextSample_ahead rfl rfl hnow hperiod.1 hperiod.2 hne'
      rw [← hstore] at hpos hle
      apply sameRelease_of_stored _ hpos hle hperiod.2
      rw [hstore]
      exact appNextSample_eq_schedAdvance rfl rfl hnow hperiod.2 hnext hsame hne'

/-- A freshly started board: the first sample is due at 0 and the period is a second. -/
def bootedApp : AppSys Stm32f1Flash := appInit stm32f1Flash ⟨[], 0⟩ stm32f1Erased

/-- One task with the same due time and period. -/
def secondTask : Scheduler Unit := ⟨[⟨1000, 0, ()⟩], 1⟩

/-- A first call at 300 ms. -/
theorem bootedApp_releases_at_300 :
    ∃ t', (⟨[⟨1000, 1000, ()⟩], 1⟩ : Scheduler Unit).tasks[0]? = some t' ∧
      (CtrlInv bootedApp.app.ctrl →
        ∃ r, appTask dewpointLnRhQ10 bootedApp 300 (.ok, ⟨2000, 5000, 0, .valid⟩) = .ok r) ∧
      ∀ r, appTask dewpointLnRhQ10 bootedApp 300 (.ok, ⟨2000, 5000, 0, .valid⟩) = .ok r →
        r.processed = true ∧
          (SameRelease dewpointLnRhQ10 300 bootedApp.app.ctrl.cfg.samplePeriodMs r.sys t' ↔
            300 - bootedApp.app.nextSampleMs ≠ bootedApp.app.ctrl.cfg.samplePeriodMs) := by
  have hpass : schedRunOnce (fun _ st => .ok st) secondTask 300 () =
      .ok (⟨[⟨1000, 1000, ()⟩], 1⟩, (), true) := rfl
  exact sample_gate_releases_as_scheduler dewpointLnRhQ10 bootedApp 300 _ (by decide) (by decide)
    (t := ⟨1000, 0, ()⟩) rfl rfl rfl hpass

/-- A first call at 1000 ms, one period late: the scheduler's task is due again at 2000, the sample
gate at 1000, and a second call at that time takes a second sample. -/
theorem bootedApp_samples_twice :
    bootedApp.app.nextSampleMs = 0 ∧ bootedApp.app.ctrl.cfg.samplePeriodMs = 1000 ∧
      ∃ r r', appTask dewpointLnRhQ10 bootedApp 1000 (.hw, ⟨0, 0, 0, .invalid⟩) = .ok r ∧
        r.sys.app.nextSampleMs = 1000 ∧
        (schedRunOnce (fun _ st => .ok st) secondTask 1000 ()).toOption =
          some (⟨[⟨1000, 2000, ()⟩], 1⟩, (), true) ∧
        appTask dewpointLnRhQ10 r.sys 1000 (.hw, ⟨0, 0, 0, .invalid⟩) = .ok r' ∧
        r'.processed = true :=
  ⟨rfl, rfl, _, _, rfl, rfl, rfl, rfl, rfl⟩

end ClimateNode.Application
