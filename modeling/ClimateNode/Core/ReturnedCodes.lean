import ClimateNode.Core.ControllerInvariant

/-!
# Returned codes

`ctrl_update` returns a code, keeps one in `last_error` and leaves a state. `CodesAgree` says that
the three fit together. Every exit behind the guard sets `last_error` to the code it returns; the
guard itself returns `ERR_HW` and leaves the field alone (`lastError_of_locked`). Crash isolation
stores `ERR_HW` when it enters `SAFE`, the emergency shutdown stores nothing, so after a shutdown
the field is stale. `returned_codes_agree_iff` gives the exact runs along which the codes agree.
-/

set_option autoImplicit false

namespace ClimateNode.Core

open ClimateNode.Machine

/-- A controller with its platform, and the code of the update that was the last operation. -/
structure CodeTrace where
  sys : CtrlSys
  returned : Option Err
  deriving DecidableEq, Repr

/-- One operation on the controller; only an update returns a code. -/
def codeTraceStep (lut : DewpointLut) (t : CodeTrace) : CtrlOp → Checked CodeTrace
  | .update s => do
      let r ← ctrlUpdate lut t.sys.plat t.sys.ctrl s
      pure ⟨⟨r.plat, r.ctrl⟩, some r.err⟩
  | .forceShutdown =>
      let pc := ctrlForceEmergencyShutdown t.sys.plat t.sys.ctrl
      .ok ⟨⟨pc.1, pc.2⟩, none⟩
  | .reinit boot => .ok ⟨boot.start t.sys.plat, none⟩

/-- The code `err` returned by an update fits the controller `c` it leaves. -/
structure CodesAgree (c : Controller) (err : Err) : Prop where
  lastError : c.lastError = err
  ok : err = .ok → c.state = .run
  warmup : err = .warmup → c.state = .warmup
  notReady : err = .notReady → c.state = .sensorFault
  hw : err = .hw ↔ c.state = .safe

/-- After an update, the returned code, `last_error` and the state fit together. -/
def ReturnedAgrees (t : CodeTrace) : Prop :=
  ∀ err, t.returned = some err → CodesAgree t.sys.ctrl err

/-- An update in `SAFE` finds `ERR_HW` in `last_error` already. -/
def LockRecorded (t : CodeTrace) (op : CtrlOp) : Prop :=
  ∀ s, op = .update s → t.sys.ctrl.state = .safe → t.sys.ctrl.lastError = .hw

section Exits

variable {lut : DewpointLut} {p : Platform} {c : Controller} {w : List TempCd} {s : Sample}
  {r : CtrlStep}

/-- The guard returns `ERR_HW` and leaves `last_error` as it is. -/
theorem lastError_of_locked (hx : UpdateExit lut p c w s r) (hsafe : c.state = .safe) :
    r.err = .hw ∧ r.ctrl.lastError = c.lastError := by
  cases hx with
  | locked => exact ⟨rfl, rfl⟩
  | debounced hlock => exact absurd (Or.inl hsafe) hlock
  | faulted hlock => exact absurd (Or.inl hsafe) hlock
  | recovering hlock => exact absurd (Or.inl hsafe) hlock
  | processed hlock => exact absurd (Or.inl hsafe) hlock

/-- Every exit agrees, the guard's only when the lock is recorded. -/
theorem codesAgree_of_exit (h : CtrlInv c) (hx : UpdateExit lut p c w s r)
    (hrec : c.state = .safe → c.lastError = .hw) : CodesAgree r.ctrl r.err := by
  cases hx with
  | locked hlock =>
      -- a dying supply is only ever found in `SAFE`
      have hsafe : c.state = .safe := hlock.elim id h.dyingSafe
      exact ⟨hrec hsafe, nofun, nofun, nofun, ⟨fun _ => hsafe, fun _ => rfl⟩⟩
  | debounced hlock =>
      refine ⟨rfl, nofun, nofun, nofun, ⟨nofun, fun hsafe => ?_⟩⟩
      exact absurd (Or.inl hsafe) hlock
  | faulted => exact ⟨rfl, nofun, nofun, nofun, ⟨nofun, nofun⟩⟩
  | recovering hlock hs hfault =>
      -- the state is kept, and no path enters `MATH_FAULT`
      have hsensor : c.state = .sensorFault := hfault.resolve_right h.notMathFault
      refine ⟨rfl, nofun, nofun, fun _ => hsensor, ⟨nofun, fun hsafe => ?_⟩⟩
      exact absurd (Or.inl hsafe) hlock
  | processed hlock hs hready hp =>
      cases hp with
      | warming => exact ⟨rfl, nofun, fun _ => rfl, nofun, ⟨nofun, nofun⟩⟩
      | running => exact ⟨rfl, fun _ => rfl, nofun, nofun, ⟨nofun, nofun⟩⟩

end Exits

section Step

variable (lut : DewpointLut) {t : CodeTrace}

/-- An update records its code, and the codes agree if and only if a lock was recorded before. -/
theorem codeTraceStep_update (h : CtrlInv t.sys.ctrl) (s : Sample) :
    ∃ t', codeTraceStep lut t (.update s) = .ok t' ∧ CtrlInv t'.sys.ctrl ∧
      (ReturnedAgrees t' ↔ LockRecorded t (.update s)) := by
  obtain ⟨w, r, -, hr, hx, hinv⟩ := ctrlUpdate_inv lut t.sys.plat s h
  refine ⟨⟨⟨r.plat, r.ctrl⟩, some r.err⟩, by simp [codeTraceStep, hr], hinv, ?_, ?_⟩
  · intro hagrees s' _ hsafe
    obtain ⟨herr, hkept⟩ := lastError_of_locked hx hsafe
    rw [← hkept, ← herr]
    exact (hagrees r.err rfl).lastError
  · intro hrec err herr
    cases herr
    exact codesAgree_of_exit h hx (hrec s rfl)

/-- One operation keeps the invariant, and the codes agree after it if and only if it meets the
condition. -/
theorem codeTraceStep_spec (h : CtrlInv t.sys.ctrl) (op : CtrlOp) :
    ∃ t', codeTraceStep lut t op = .ok t' ∧ CtrlInv t'.sys.ctrl ∧
      (ReturnedAgrees t' ↔ LockRecorded t op) := by
  cases op with
  | update s => exact codeTraceStep_update lut h s
  | forceShutdown =>
      refine ⟨_, rfl, ctrlInv_forceShutdown t.sys.plat h, ?_⟩
      exact iff_of_true (fun _ herr => nomatch herr) (fun _ hop => nomatch hop)
  | reinit boot =>
      refine ⟨_, rfl, ctrlInv_start _ boot, ?_⟩
      exact iff_of_true (fun _ herr => nomatch herr) (fun _ hop => nomatch hop)

end Step

/-- Along a run from an initialisation, every update leaves its code in `last_error` and the state
that belongs to it, if and only if every update in `SAFE` finds `ERR_HW` recorded there. -/
theorem returned_codes_agree_iff (lut : DewpointLut) (p : Platform) (boot : CtrlBoot)
    (ops : List CtrlOp) :
    AlwaysAlong (codeTraceStep lut) ReturnedAgrees ⟨boot.start p, none⟩ ops ↔
      StepsMeet (codeTraceStep lut) LockRecorded ⟨boot.start p, none⟩ ops := by
  apply alwaysAlong_iff_stepsMeet
    (I := fun t => CtrlInv t.sys.ctrl ∧ ReturnedAgrees t)
  · exact fun t hI => hI.2
  · rintro t op ⟨hinv, -⟩ hC
    obtain ⟨t', ht, hinv', hiff⟩ := codeTraceStep_spec lut hinv op
    exact ⟨t', ht, hinv', hiff.2 hC⟩
  · rintro t op t' ⟨hinv, -⟩ hC ht hagrees
    obtain ⟨u, hu, -, hiff⟩ := codeTraceStep_spec lut hinv op
    rw [ht] at hu
    cases hu
    exact hC (hiff.1 hagrees)
  · exact ⟨ctrlInv_start p boot, fun _ herr => nomatch herr⟩

/-- After an emergency shutdown from power-on, an update returns `ERR_HW` and `last_error` still
says `ERR_NOT_READY`. -/
theorem returned_code_not_recorded :
    ¬ ∀ (lut : DewpointLut) (p : Platform) (boot : CtrlBoot) (ops : List CtrlOp),
      AlwaysAlong (codeTraceStep lut) ReturnedAgrees ⟨boot.start p, none⟩ ops := by
  intro h
  have hall := h dewpointLnRhQ10 ⟨[], 0⟩ (.init none)
    [.forceShutdown, .update ⟨2000, 5000, 0, .valid⟩]
  obtain ⟨τ, hτ, hagrees⟩ := alwaysAlong_iff_prefix.1 hall _ (List.prefix_refl _)
  cases hτ
  have hlast := (hagrees .hw rfl).lastError
  cases hlast

end ClimateNode.Core
