import ClimateNode.App.HostRunner
import ClimateNode.Driver.MockSensor
import ClimateNode.Service.LoggerQueue

/-!
# Runs of the host runner

`HostInv` relates the runner to the ideal host: the controller refines the ideal one, the counters
are the unbounded ones modulo `2^32`, and the characters on the standard output and the pending ones
are together the lines so far. A bound on the pending characters goes with it. A sample adds two
lines of at most 120 and 150 characters to an empty ring of 256, with 32 taken out between them, and
the logger task has emptied the ring long before the next sample: nothing is ever dropped.

Each task keeps the invariant, a tick is the tasks that the ideal scheduler finds due
(`hostTick_inv`), and a run of any length writes the log of the ideal host
(`host_log_is_ideal_log`). With the mock sensor no line of it shows the relay on
(`mock_log_relay_off`).
-/

set_option autoImplicit false

namespace ClimateNode.Application

open ClimateNode.Core ClimateNode.Service ClimateNode.Machine ClimateNode.Platforms

variable {S : Type}

/-! ## Lengths of the lines -/

theorem length_decimalNumeral_toNat (x : UInt32) : (decimalNumeral x.toNat).length ≤ 10 :=
  length_decimalNumeral_le (by decide) (Nat.lt_trans x.toNat_lt (by decide))

theorem length_paddedChars_le (x : UInt32) : (paddedChars x 6).length ≤ 10 := by
  have h := length_decimalNumeral_toNat x
  have hwidth : (6 : UInt8).toNat = 6 := rfl
  rw [paddedChars, List.length_append, List.length_replicate, hwidth]
  omega

theorem length_fixedChars_le {mag : Nat} (h : mag < 4294967296) :
    (fixedChars mag).length ≤ 11 := by
  have hint : (decimalNumeral (mag / 100)).length ≤ 8 :=
    length_decimalNumeral_le (by decide) (by omega)
  simp only [fixedChars, List.length_append, List.length_cons, List.length_nil]
  omega

theorem length_signed_le (x : Int32) :
    (signChars x ++ fixedChars x.toInt.natAbs).length ≤ 12 := by
  have hlow := x.le_toInt
  have hhigh := x.toInt_lt
  have hfixed : (fixedChars x.toInt.natAbs).length ≤ 11 := length_fixedChars_le (by omega)
  have hsign : (signChars x).length ≤ 1 := by
    rw [signChars]
    split
    · exact Nat.le_refl 1
    · exact Nat.zero_le 1
  rw [List.length_append]
  omega

theorem length_stateName_le (s : CtrlState) : (stateName s).length ≤ 12 := by
  cases s <;> decide

theorem length_errStr_le (e : Err) : (errStr e).length ≤ 12 := by
  cases e <;> decide

theorem length_controlRecord_le (nowMs : UInt32) (r : AppReport) (e : Err) :
    (controlRecord nowMs r e).chars.length ≤ 104 := by
  have h₁ := length_paddedChars_le nowMs
  have h₂ := length_stateName_le r.state
  have h₃ := length_errStr_le e
  have h₄ := length_signed_le r.filteredTempCd
  have h₅ := length_fixedChars_le r.humidityCp.toNat_lt
  have h₆ := length_signed_le r.dewPointCd
  have h₇ : (flagChars r.relayOn).length = 1 := rfl
  have hlabels : controlLabels.flatten.length = 33 := by decide
  rw [controlRecord, HostRecord.chars, HostRecord.text, List.length_append,
    length_writeFields (fieldsFit_control _), hlabels]
  simp only [List.length_append] at h₄ h₆
  simp only [ControlLine.fields, List.flatten_cons, List.flatten_nil, List.length_append,
    List.length_cons, List.length_nil]
  omega

theorem length_countsFields_le (nowMs : UInt32) (d : Diagnostics) :
    (countsLine nowMs d).fields.flatten.length ≤ 60 := by
  have h₁ := length_paddedChars_le nowMs
  have h₂ := length_decimalNumeral_toNat (diagUptimeMs d nowMs)
  have h₃ := length_decimalNumeral_toNat d.sampleCount
  have h₄ := length_decimalNumeral_toNat d.faultEvents
  have h₅ := length_decimalNumeral_toNat d.sensorErrorCount
  have h₆ := length_decimalNumeral_toNat d.warmupCount
  simp only [countsLine, CountsLine.fields, List.flatten_cons, List.flatten_nil,
    List.length_append, List.length_nil]
  omega

theorem length_diagRecordLine_le (nowMs : UInt32) (d : Diagnostics) :
    (diagRecordLine nowMs d).chars.length ≤ 143 := by
  have hfields := length_countsFields_le nowMs d
  have hstate := length_stateName_le d.lastState
  have hlabels : diagLabels.flatten.length = 70 := by decide
  rw [diagRecordLine, HostRecord.chars, HostRecord.text, List.length_append,
    length_writeFields (fieldsFit_diag _ _), hlabels, List.flatten_append, List.length_append]
  simp only [List.flatten_cons, List.flatten_nil, List.append_nil, List.length_singleton]
  omega

theorem length_doneRecord_le (nowMs : UInt32) (d : Diagnostics) :
    (doneRecord nowMs d).chars.length ≤ 124 := by
  have hfields := length_countsFields_le nowMs d
  have hlabels : doneLabels.flatten.length = 63 := by decide
  rw [doneRecord, HostRecord.chars, HostRecord.text, List.length_append,
    length_writeFields (fieldsFit_done _), hlabels, List.length_singleton]
  omega

/-! ## The output and the pending characters -/

/-- The standard output and the pending characters are together the lines so far, and at most
`pending` characters are pending. -/
structure Logged (lines : List IdealLine) (pending : Nat) (l : Logger) (stdout : List UInt8) :
    Prop where
  inv : LoggerInv l
  count_le : l.count ≤ pending
  log : ∃ records : List HostRecord, records.map HostRecord.ideal = lines.map IdealLine.wrapped ∧
    stdout ++ loggerContents l = records.flatMap HostRecord.chars

theorem loggerInv_writeChars (cs : List UInt8) :
    ∀ {l : Logger}, LoggerInv l → l.count + cs.length ≤ loggerBufferSize →
      LoggerInv (cs.foldl loggerWriteChar l) := by
  induction cs with
  | nil => exact fun h _ => h
  | cons c cs ih =>
      intro l h hroom
      rw [List.length_cons] at hroom
      obtain ⟨l', hpush, hinv, hcount, -, -⟩ :=
        loggerPushChar_spec h (show l.count < loggerBufferSize by omega) c
      have hput : loggerWriteChar l c = l' := by
        rw [loggerWriteChar, hpush]
      rw [List.foldl_cons, hput]
      exact ih hinv (by omega)

section Logged

variable {lines : List IdealLine} {pending : Nat} {l : Logger} {stdout : List UInt8}

/-- A line that fits is pending whole. -/
theorem Logged.write (h : Logged lines pending l stdout) {record : HostRecord} {line : IdealLine}
    (hrecord : record.ideal = line.wrapped) {m : Nat} (hlen : record.chars.length ≤ m)
    (hroom : pending + m ≤ loggerBufferSize) :
    Logged (lines ++ [line]) (pending + m) (record.chars.foldl loggerWriteChar l) stdout := by
  have hcount := h.count_le
  have hfits : l.count + record.chars.length ≤ loggerBufferSize := by omega
  have hinv := loggerInv_writeChars record.chars h.inv hfits
  have hcontents := (loggerWriteChars_spec record.chars h.inv hfits).1
  obtain ⟨records, hlines, hlog⟩ := h.log
  refine ⟨hinv, ?_, records ++ [record], ?_, ?_⟩
  · have hsum := length_loggerContents hinv
    rw [hcontents, List.length_append, length_loggerContents h.inv] at hsum
    omega
  · rw [List.map_append, List.map_append, hlines, List.map_singleton, List.map_singleton, hrecord]
  · rw [hcontents, ← List.append_assoc, hlog, List.flatMap_append, List.flatMap_singleton]

/-- The logger task moves characters from the ring to the output. -/
theorem Logged.task (h : Logged lines pending l stdout) :
    Logged lines (pending - 32) (loggerTask hostPlatformWrite l stdout).1
      (loggerTask hostPlatformWrite l stdout).2 := by
  obtain ⟨l', htask, hinv, hrest, -⟩ := loggerTask_spec hostPlatformWrite h.inv stdout
  obtain ⟨records, hlines, hlog⟩ := h.log
  have hlen := length_loggerContents h.inv
  have hcount := h.count_le
  rw [htask]
  refine ⟨hinv, ?_, records, hlines, ?_⟩
  · have hleft := length_loggerContents hinv
    rw [hrest, List.length_drop, hlen, loggerChunkSize] at hleft
    show l'.count ≤ pending - 32
    omega
  · rw [hrest, ← hlog]
    by_cases hempty : l.count = 0
    · have hnil : loggerContents l = [] := List.length_eq_zero_iff.1 (hlen.trans hempty)
      rw [if_pos hempty, hnil, List.drop_nil]
    · have hchunk : (loggerChunk l).length ≠ 0 := by
        rw [loggerChunk, List.length_take, hlen, loggerChunkSize]
        omega
      rw [if_neg hempty, hostPlatformWrite, if_neg hchunk, List.append_assoc, loggerChunk,
        List.take_append_drop]

theorem Logged.flushLoop (n : Nat) :
    ∀ {l : Logger} {stdout : List UInt8}, Logged lines pending l stdout →
      Logged lines pending (loggerFlushLoop hostPlatformWrite n l stdout).1
        (loggerFlushLoop hostPlatformWrite n l stdout).2 := by
  induction n with
  | zero => exact fun h => h
  | succ n ih =>
      intro l stdout h
      rw [loggerFlushLoop]
      split
      · obtain ⟨hinv, hcount, hlog⟩ := h.task
        exact ih ⟨hinv, by omega, hlog⟩
      · exact h

/-- A flush leaves nothing pending. -/
theorem Logged.flush (h : Logged lines pending l stdout) :
    Logged lines 0 (loggerFlush hostPlatformWrite l stdout).1
      (loggerFlush hostPlatformWrite l stdout).2 := by
  obtain ⟨hinv, -, hlog⟩ := h.flushLoop l.count
  exact ⟨hinv, Nat.le_of_eq (count_loggerFlush hostPlatformWrite h.inv stdout), hlog⟩

/-- With nothing pending the output consists of the lines. -/
theorem Logged.stdout_eq (h : Logged lines 0 l stdout) :
    ∃ records : List HostRecord, stdout = records.flatMap HostRecord.chars ∧
      records.map HostRecord.ideal = lines.map IdealLine.wrapped := by
  obtain ⟨records, hlines, hlog⟩ := h.log
  have hnil : loggerContents l = [] :=
    List.length_eq_zero_iff.1 ((length_loggerContents h.inv).trans (Nat.le_zero.1 h.count_le))
  rw [hnil, List.append_nil] at hlog
  exact ⟨records, hlog, hlines⟩

end Logged

/-! ## The tasks -/

/-- The configuration of the controller on an empty flash. -/
def hostCtrlCfg : ControllerConfig := (ctrlInit (some (ctrlCfgOf storageLoadDefaults))).cfg

theorem idealConfig_hostCtrlCfg : idealConfig hostCtrlCfg = hostIdealConfig := rfl

/-- The runner beside the ideal host. -/
structure HostInv (h : IdealHost S) (lines : List IdealLine) (next pending : Nat) (σ : HostSys S) :
    Prop where
  sensor : σ.sensor = h.sensor
  level : σ.level = .info
  refines : Refines σ.sys.app.ctrl h.ctrl
  cfg : σ.sys.app.ctrl.cfg = hostCtrlCfg
  next : σ.sys.app.nextSampleMs = UInt32.ofNat next
  diag : DiagRefines 0 σ.diag h.ctrl.mode h.counts
  logged : Logged lines pending σ.logger σ.stdout

section Tasks

variable {h : IdealHost S} {lines : List IdealLine} {next pending : Nat} {σ : HostSys S}

theorem hostLoggerTask_inv (hinv : HostInv h lines next pending σ) :
    HostInv h lines next (pending - 32) (hostLoggerTask σ) :=
  ⟨hinv.sensor, hinv.level, hinv.refines, hinv.cfg, hinv.next, hinv.diag, hinv.logged.task⟩

theorem hostLoggerFlush_inv (hinv : HostInv h lines next pending σ) :
    HostInv h lines next 0 (hostLoggerFlush σ) :=
  ⟨hinv.sensor, hinv.level, hinv.refines, hinv.cfg, hinv.next, hinv.diag, hinv.logged.flush⟩

/-- A line that fits is pending whole. -/
theorem HostInv.write (hinv : HostInv h lines next pending σ) {record : HostRecord}
    {line : IdealLine} (hrecord : record.ideal = line.wrapped) {m : Nat}
    (hlen : record.chars.length ≤ m) (hroom : pending + m ≤ 256) :
    HostInv h (lines ++ [line]) next (pending + m)
      { σ with logger := record.chars.foldl loggerWriteChar σ.logger } :=
  ⟨hinv.sensor, hinv.level, hinv.refines, hinv.cfg, hinv.next, hinv.diag,
    hinv.logged.write hrecord hlen hroom⟩

theorem toNat_ofNat_u32 (n : Nat) : (UInt32.ofNat n).toNat = n % 4294967296 := UInt32.toNat_ofNat'

/-- The counters are shown modulo `2^32`. -/
theorem DiagRefines.ideal_countsLine {d : Diagnostics} {mode : IdealMode} {n : IdealCounts}
    (hdiag : DiagRefines 0 d mode n) (ms : Nat) :
    (countsLine (UInt32.ofNat ms) d).ideal = n.wrapped ∧
      (diagUptimeMs d (UInt32.ofNat ms)).toNat = ms % 4294967296 := by
  constructor
  · rw [CountsLine.ideal, countsLine, hdiag.samples, hdiag.faultEvents, hdiag.sensorErrors,
      hdiag.warmups]
    simp only [toNat_ofNat_u32]
    rfl
  · have hzero : ¬ UInt32.ofNat ms < 0 := UInt32.not_lt_zero
    rw [diagUptimeMs, hdiag.started, if_neg hzero, UInt32.sub_zero, toNat_ofNat_u32]

/-- The diagnostics task writes the counters, given room for them. -/
theorem hostDiagnosticsTask_spec (hinv : HostInv h lines next pending σ)
    (hroom : pending + 143 ≤ 256) (ms : Nat) :
    ∃ σ', hostDiagnosticsTask (UInt32.ofNat ms) σ = .ok σ' ∧
      HostInv h (lines ++ [.counts ms ms h.counts h.ctrl.mode]) next (pending + 143 - 32) σ' := by
  obtain ⟨hcounts, huptime⟩ := hinv.diag.ideal_countsLine ms
  have hrecord : (diagRecordLine (UInt32.ofNat ms) σ.diag).ideal =
      (IdealLine.counts ms ms h.counts h.ctrl.mode).wrapped := by
    rw [diagRecordLine, HostRecord.ideal, hcounts, hinv.diag.mode]
    simp only [countsLine, huptime, toNat_ofNat_u32]
    rfl
  have henabled : (!loggerLevelEnabled σ.level .info) = false := by
    rw [hinv.level]
    rfl
  refine ⟨_, ?_, hostLoggerTask_inv (hinv.write hrecord (length_diagRecordLine_le _ _) hroom)⟩
  rw [hostDiagnosticsTask, henabled, if_neg Bool.false_ne_true, logDiagnostics_eq, checked_ok_bind]
  rfl

theorem appDue_eq_schedIsDue (app : App) (nowMs : UInt32) :
    appDue app nowMs = schedIsDue nowMs app.nextSampleMs := by
  rw [appDue, schedIsDue, ← decide_not]
  exact decide_eq_decide.2 Int32.not_lt

variable (lut : DewpointLut) (read : S → (Err × Sample) × S)

/-- Between the samples the control task does nothing. -/
theorem hostControlTask_idle (hinv : HostInv h lines next pending σ) {ms : Nat} (hlt : ms < next)
    (hnext : next ≤ ms + 1000) : hostControlTask lut read (UInt32.ofNat ms) σ = .ok σ := by
  have hdue : appDue σ.sys.app (UInt32.ofNat ms) = false := by
    rw [appDue_eq_schedIsDue, hinv.next, schedIsDue_ofNat (by omega) (by omega)]
    exact decide_eq_false (Nat.not_le.2 hlt)
  simp only [hostControlTask, appTask_notDue lut _ hdue, checked_ok_bind, checked_pure,
    Bool.false_eq_true, if_false]

/-- The next sample time of the application. -/
theorem appNextSample_ofNat {app : App} {ms : Nat} (hnext : app.nextSampleMs = UInt32.ofNat next)
    (hperiod : app.ctrl.cfg.samplePeriodMs = 1000) (hle : next ≤ ms) (hlate : ms < next + 1000) :
    appNextSample app (UInt32.ofNat ms) = UInt32.ofNat (next + 1000) := by
  have hsum : app.nextSampleMs + app.ctrl.cfg.samplePeriodMs = UInt32.ofNat (next + 1000) := by
    rw [hnext, hperiod, UInt32.ofNat_add]
    rfl
  have hlater : ¬ (UInt32.ofNat (next + 1000) - UInt32.ofNat ms).toInt32 < 0 := by
    have hdue := due_ofNat_iff (show next + 1000 < ms + 2147483648 by omega)
      (show ms < next + 1000 + 2147483648 by omega)
    exact Int32.not_lt.2 (hdue.2 (by omega))
  rw [appNextSample, hsum]
  exact if_neg hlater

/-- A due control task takes one sample and writes its line, given room for it. -/
theorem hostControlTask_sample (hinv : HostInv h lines next pending σ) {ms : Nat} (hle : next ≤ ms)
    (hlate : ms < next + 1000) (hroom : pending + 104 ≤ 256) :
    ∃ σ', hostControlTask lut read (UInt32.ofNat ms) σ = .ok σ' ∧
      HostInv (idealHostStep lut read h ms).1
        (lines ++ [.sample ms (idealReport (idealHostUpdate lut read h).1
          (idealHostUpdate lut read h).2)])
        (next + 1000) (pending + 104) σ' := by
  have hdue : appDue σ.sys.app (UInt32.ofNat ms) = true := by
    rw [appDue_eq_schedIsDue, hinv.next, schedIsDue_ofNat (by omega) (by omega)]
    exact decide_eq_true hle
  obtain ⟨plat, relayPrev, r, htask, hcfg, hrefines, herr, -⟩ :=
    appTask_refines lut (read σ.sensor).1 hdue hinv.refines
  rw [hinv.cfg, idealConfig_hostCtrlCfg, hinv.sensor, ← idealHostUpdate] at hrefines herr
  have hsched := appNextSample_ofNat hinv.next
    (show σ.sys.app.ctrl.cfg.samplePeriodMs = 1000 by rw [hinv.cfg]; rfl) hle hlate
  -- the application, the sensor and the counters after the sample
  have hnext : HostInv (idealHostStep lut read h ms).1 lines (next + 1000) pending
      { σ with
        sensor := (read σ.sensor).2
        sys := { σ.sys with
          plat := plat
          app := { σ.sys.app with
            ctrl := r.ctrl
            nextSampleMs := appNextSample σ.sys.app (UInt32.ofNat ms)
            relayPrev := relayPrev } }
        diag := diagRecord σ.diag (UInt32.ofNat ms) r.ctrl.state r.err r.ctrl.relayOn true } := by
    refine ⟨?_, hinv.level, hrefines, hcfg.trans hinv.cfg, hsched, ?_, hinv.logged⟩
    · show (read σ.sensor).2 = (read h.sensor).2
      rw [hinv.sensor]
    · have hrecord := hinv.diag.record (UInt32.ofNat ms) r.ctrl.state r.err r.ctrl.relayOn
      rw [← hrefines.mode, herr] at hrecord
      rw [herr]
      exact hrecord
  have hline : (controlRecord (UInt32.ofNat ms) (appReport { σ.sys.app with
      ctrl := r.ctrl
      nextSampleMs := appNextSample σ.sys.app (UInt32.ofNat ms)
      relayPrev := relayPrev }) r.err).ideal =
      (IdealLine.sample ms (idealReport (idealHostUpdate lut read h).1
        (idealHostUpdate lut read h).2)).wrapped := by
    rw [← herr, IdealLine.wrapped, idealReport, hrefines.mode, hrefines.relay, hrefines.temp,
      hrefines.humidity, hrefines.dew]
    simp only [controlRecord, HostRecord.ideal, appReport, toNat_ofNat_u32]
  have henabled : loggerLevelEnabled σ.level .info = true := by
    rw [hinv.level]
    rfl
  refine ⟨_, ?_, hnext.write hline (length_controlRecord_le _ _ _) hroom⟩
  simp only [hostControlTask, htask, checked_ok_bind, checked_pure, if_true,
    logControlResult_eq loggerWriteChar _ henabled]
  rfl

end Tasks

/-! ## Ticks -/

/-- A task with a period of `m` ticks, after `k` ticks. -/
def hostTaskAt (m k : Nat) (fn : HostTask) : IdealTask HostTask :=
  ⟨10 * m, if k = 0 then 0 else 10 * (m * (k / m + 1)), fn⟩

/-- The tasks after `k` ticks, on the unbounded clock. -/
def hostTasksAt (k : Nat) : List (IdealTask HostTask) :=
  [hostTaskAt 5 k .control, hostTaskAt 1 k .logger, hostTaskAt 100 k .diag]

/-- A bound on the pending characters after `k` ticks. -/
def hostPending (k : Nat) : Nat := if k = 0 then 0 else 183 - 32 * (k % 100 - 1)

section Clock

variable {m : Nat} (k : Nat) (fn : HostTask)

/-- After the first tick the next time is the next multiple of the period. -/
theorem next_hostTaskAt (hm : 0 < m) (hk : 0 < k) :
    10 * k < (hostTaskAt m k fn).next ∧ (hostTaskAt m k fn).next ≤ 10 * k + 10 * m := by
  have hsplit := Nat.div_add_mod k m
  have hrest := Nat.mod_lt k hm
  have hnext : (hostTaskAt m k fn).next = 10 * (m * (k / m + 1)) := if_neg (by omega)
  rw [hnext, Nat.mul_succ]
  omega

theorem scheduled_hostTaskAt (hm : 0 < m) (hlt : m ≤ 100) :
    (hostTaskAt m k fn).Scheduled (10 * k) := by
  refine ⟨by show 0 < 10 * m; omega, by show 10 * m < 2147483648; omega, ?_, ?_⟩
  · by_cases hk : k = 0
    · subst hk
      exact Nat.zero_le _
    · exact Nat.le_of_lt (next_hostTaskAt k fn hm (by omega)).1
  · by_cases hk : k = 0
    · subst hk
      exact Nat.zero_le _
    · exact (next_hostTaskAt k fn hm (by omega)).2

/-- A task is due at the first tick and at the multiples of its period. -/
theorem due_hostTaskAt_iff (hm : 0 < m) :
    (hostTaskAt m k fn).next ≤ 10 * (k + 1) ↔ k = 0 ∨ m ∣ k + 1 := by
  by_cases hk : k = 0
  · subst hk
    exact ⟨fun _ => Or.inl rfl, fun _ => Nat.zero_le _⟩
  · have hnext : (hostTaskAt m k fn).next = 10 * (m * (k / m + 1)) := if_neg hk
    have hsplit := Nat.div_add_mod k m
    have hrest := Nat.mod_lt k hm
    rw [hnext, Nat.mul_succ]
    constructor
    · intro hle
      exact Or.inr ⟨k / m + 1, by rw [Nat.mul_succ]; omega⟩
    · rintro (hzero | hdvd)
      · exact absurd hzero hk
      · have hfloor : m * (k / m + 1) ≤ k + 1 := by
          obtain ⟨q, hq⟩ := hdvd
          have hlt : k / m < q := by
            apply (Nat.div_lt_iff_lt_mul hm).2
            rw [Nat.mul_comm]
            omega
          rw [hq]
          exact Nat.mul_le_mul_left m hlt
        rw [Nat.mul_succ] at hfloor
        omega

/-- A pass moves a task to its next time. -/
theorem pass_hostTaskAt (hm : 0 < m) :
    (hostTaskAt m k fn).pass (10 * (k + 1)) = hostTaskAt m (k + 1) fn := by
  have hlater : hostTaskAt m (k + 1) fn = ⟨10 * m, 10 * (m * ((k + 1) / m + 1)), fn⟩ := rfl
  have hdue := due_hostTaskAt_iff k fn hm
  rw [IdealTask.pass, hlater]
  by_cases hk : k = 0
  · -- every task starts with the time 0, which only the logger task's period does not outrun
    subst hk
    rw [if_pos (hdue.2 (Or.inl rfl))]
    show IdealTask.mk (10 * m) (if 0 + 10 * m ≤ 10 then 10 + 10 * m else 0 + 10 * m) fn = _
    rcases Nat.lt_or_ge 1 m with hlong | hshort
    · rw [if_neg (by omega), Nat.div_eq_of_lt hlong, Nat.mul_one, Nat.zero_add]
    · obtain rfl : m = 1 := by omega
      rfl
  · have hnext : (hostTaskAt m k fn).next = 10 * (m * (k / m + 1)) := if_neg hk
    by_cases hdvd : m ∣ k + 1
    · have hfloor := Nat.succ_div_of_dvd hdvd
      have hsplit := Nat.div_add_mod k m
      have hrest := Nat.mod_lt k hm
      have hnow : ¬ (hostTaskAt m k fn).next + (hostTaskAt m k fn).period ≤ 10 * (k + 1) := by
        show ¬ (hostTaskAt m k fn).next + 10 * m ≤ 10 * (k + 1)
        rw [hnext, Nat.mul_succ]
        omega
      rw [if_pos (hdue.2 (Or.inr hdvd)), if_neg hnow, hfloor, hnext]
      show IdealTask.mk (10 * m) (10 * (m * (k / m + 1)) + 10 * m) fn = _
      rw [Nat.mul_succ m (k / m + 1), Nat.mul_add 10]
    · rw [if_neg (by rw [hdue]; exact not_or.2 ⟨hk, hdvd⟩), Nat.succ_div_of_not_dvd hdvd, ← hnext]
      rfl

/-- What a pass finds due. -/
theorem idealDue_hostTasksAt : idealDue (10 * (k + 1)) (hostTasksAt k) =
    if k = 0 ∨ 100 ∣ k + 1 then [.control, .logger, .diag]
    else if 5 ∣ k + 1 then [.control, .logger]
    else [.logger] := by
  have hcontrol := due_hostTaskAt_iff k .control (show 0 < 5 by decide)
  have hlogger := (due_hostTaskAt_iff k .logger Nat.one_pos).2 (Or.inr (Nat.one_dvd _))
  have hdiag := due_hostTaskAt_iff k .diag (show 0 < 100 by decide)
  simp only [idealDue, hostTasksAt, List.filter_cons, List.filter_nil, hcontrol, hlogger, hdiag,
    decide_true, if_true]
  by_cases hsample : k = 0 ∨ 100 ∣ k + 1
  · have hfive : k = 0 ∨ 5 ∣ k + 1 := hsample.imp_right (Nat.dvd_trans (by decide))
    rw [if_pos hsample, decide_eq_true hfive, decide_eq_true hsample]
    rfl
  · rw [if_neg hsample, decide_eq_false hsample]
    by_cases hfive : 5 ∣ k + 1
    · rw [if_pos hfive, decide_eq_true (Or.inr hfive)]
      rfl
    · have hnot : ¬ (k = 0 ∨ 5 ∣ k + 1) := not_or.2 ⟨fun h => hsample (Or.inl h), hfive⟩
      rw [if_neg hfive, decide_eq_false hnot]
      rfl

theorem scheduled_hostTasksAt : ∀ t ∈ hostTasksAt k, t.Scheduled (10 * k) := by
  intro t ht
  simp only [hostTasksAt, List.mem_cons, List.not_mem_nil, or_false] at ht
  rcases ht with rfl | rfl | rfl
  · exact scheduled_hostTaskAt k _ (by decide) (by decide)
  · exact scheduled_hostTaskAt k _ (by decide) (by decide)
  · exact scheduled_hostTaskAt k _ (by decide) (by decide)

theorem pass_hostTasksAt :
    (hostTasksAt k).map (IdealTask.pass (10 * (k + 1))) = hostTasksAt (k + 1) := by
  simp only [hostTasksAt, List.map_cons, List.map_nil]
  rw [pass_hostTaskAt k _ (by decide), pass_hostTaskAt k _ (by decide),
    pass_hostTaskAt k _ (by decide)]

theorem sampleTimes_succ : sampleTimes (k + 1) =
    sampleTimes k ++ if k = 0 ∨ 100 ∣ k + 1 then [10 * (k + 1)] else [] := by
  have hlast : (k + 1 = 1 ∨ (k + 1) % 100 = 0) ↔ (k = 0 ∨ 100 ∣ k + 1) := by omega
  rw [sampleTimes, List.range'_concat, List.filter_append, List.map_append, ← sampleTimes]
  congr 1
  simp only [Nat.one_mul, Nat.add_comm 1 k, List.filter_cons, List.filter_nil, hlast]
  split
  · next h => rw [if_pos (of_decide_eq_true h)]; rfl
  · next h => rw [if_neg (fun hk => h (decide_eq_true hk))]; rfl

end Clock

section Run

variable (lut : DewpointLut) (read : S → (Err × Sample) × S) (sensor : S)

/-- The ideal host after `k` ticks. -/
def idealHostAt (k : Nat) : IdealHost S :=
  after (idealHostStep lut read) (idealHostStart sensor) (sampleTimes k)

/-- The lines of the first `k` ticks. -/
def idealLinesAt (k : Nat) : List IdealLine :=
  .boot :: answers (idealHostStep lut read) (idealHostStart sensor) (sampleTimes k)

/-- The next sample time after `k` ticks. -/
def hostNextSample (k : Nat) : Nat := (hostTaskAt 100 k .control).next

/-- The runner after `k` ticks. -/
structure TickInv (k : Nat) (r : HostRun S) : Prop where
  nowMs : r.nowMs = UInt32.ofNat (10 * k)
  sched : r.sched = ⟨(hostTasksAt k).map IdealTask.wrapped, 4⟩
  host : HostInv (idealHostAt lut read sensor k) (idealLinesAt lut read sensor k)
    (hostNextSample k) (hostPending k) r.host

variable {lut read sensor} {k : Nat}

theorem HostInv.mono {h : IdealHost S} {lines : List IdealLine} {next pending more : Nat}
    {σ : HostSys S} (hinv : HostInv h lines next pending σ) (hle : pending ≤ more) :
    HostInv h lines next more σ :=
  ⟨hinv.sensor, hinv.level, hinv.refines, hinv.cfg, hinv.next, hinv.diag,
    hinv.logged.inv, Nat.le_trans hinv.logged.count_le hle, hinv.logged.log⟩

/-- A tick without a sample only empties the ring further. -/
theorem hostPass_quiet (hquiet : ¬ (k = 0 ∨ 100 ∣ k + 1)) {σ : HostSys S}
    (hinv : HostInv (idealHostAt lut read sensor k) (idealLinesAt lut read sensor k)
      (hostNextSample k) (hostPending k) σ) :
    ∃ σ', (idealDue (10 * (k + 1)) (hostTasksAt k)).foldlM
        (fun σ fn => hostExec lut read (UInt32.ofNat (10 * (k + 1))) fn σ) σ = .ok σ' ∧
      HostInv (idealHostAt lut read sensor (k + 1)) (idealLinesAt lut read sensor (k + 1))
        (hostNextSample (k + 1)) (hostPending (k + 1)) σ' := by
  have hk : 0 < k := by omega
  have htimes : sampleTimes (k + 1) = sampleTimes k := by
    rw [sampleTimes_succ, if_neg hquiet, List.append_nil]
  have hdue := due_hostTaskAt_iff k .control (show 0 < 100 by decide)
  have hahead : 10 * (k + 1) < hostNextSample k := Nat.not_le.1 (mt hdue.1 hquiet)
  have hnear : hostNextSample k ≤ 10 * k + 10 * 100 :=
    (next_hostTaskAt k .control (by decide) hk).2
  have hsame : hostNextSample (k + 1) = hostNextSample k := by
    have hpass := pass_hostTaskAt k .control (show 0 < 100 by decide)
    rw [IdealTask.pass, if_neg (mt hdue.1 hquiet)] at hpass
    exact (congrArg IdealTask.next hpass).symm
  have hpending : hostPending k - 32 ≤ hostPending (k + 1) := by
    rw [hostPending, hostPending, if_neg (by omega), if_neg (by omega)]
    omega
  have hidle := hostControlTask_idle lut read hinv hahead (by omega)
  have hlogger := (hostLoggerTask_inv hinv).mono hpending
  refine ⟨hostLoggerTask σ, ?_, ?_⟩
  · rw [idealDue_hostTasksAt, if_neg hquiet]
    split
    · simp only [List.foldlM_cons, List.foldlM_nil, hostExec, hidle, checked_ok_bind, checked_pure]
    · simp only [List.foldlM_cons, List.foldlM_nil, hostExec, checked_ok_bind, checked_pure]
  · rw [idealHostAt, idealLinesAt, htimes, hsame]
    exact hlogger

/-- A tick with a sample finds the ring empty. -/
theorem hostPass_sample (hsample : k = 0 ∨ 100 ∣ k + 1) {σ : HostSys S}
    (hinv : HostInv (idealHostAt lut read sensor k) (idealLinesAt lut read sensor k)
      (hostNextSample k) (hostPending k) σ) :
    ∃ σ', (idealDue (10 * (k + 1)) (hostTasksAt k)).foldlM
        (fun σ fn => hostExec lut read (UInt32.ofNat (10 * (k + 1))) fn σ) σ = .ok σ' ∧
      HostInv (idealHostAt lut read sensor (k + 1)) (idealLinesAt lut read sensor (k + 1))
        (hostNextSample (k + 1)) (hostPending (k + 1)) σ' := by
  have htimes : sampleTimes (k + 1) = sampleTimes k ++ [10 * (k + 1)] := by
    rw [sampleTimes_succ, if_pos hsample]
  have hdue : hostNextSample k ≤ 10 * (k + 1) :=
    (due_hostTaskAt_iff k .control (show 0 < 100 by decide)).2 hsample
  have hlate : 10 * (k + 1) < hostNextSample k + 1000 := by
    by_cases hk : k = 0
    · subst hk
      decide
    · have := (next_hostTaskAt k .control (show 0 < 100 by decide) (by omega)).1
      show 10 * (k + 1) < (hostTaskAt 100 k .control).next + 1000
      omega
  have hnext : hostNextSample (k + 1) = hostNextSample k + 1000 := by
    have hpass := pass_hostTaskAt k .control (show 0 < 100 by decide)
    have hready : (hostTaskAt 100 k .control).next ≤ 10 * (k + 1) := hdue
    rw [IdealTask.pass, if_pos hready] at hpass
    rw [hostNextSample, ← hpass]
    exact if_neg (Nat.not_le.2 hlate)
  have hempty : hostPending k = 0 := by
    rw [hostPending]
    split
    · rfl
    · omega
  have hbound : 183 ≤ hostPending (k + 1) := by
    rw [hostPending, if_neg (by omega)]
    omega
  rw [hempty] at hinv
  obtain ⟨σ₁, hcontrol, hinv₁⟩ := hostControlTask_sample lut read hinv hdue hlate (by decide)
  have hinv₂ := hostLoggerTask_inv hinv₁
  obtain ⟨σ₃, hdiag, hinv₃⟩ := hostDiagnosticsTask_spec hinv₂ (by decide) (10 * (k + 1))
  refine ⟨σ₃, ?_, ?_⟩
  · rw [idealDue_hostTasksAt, if_pos hsample]
    simp only [List.foldlM_cons, List.foldlM_nil, hostExec, hcontrol, hdiag, checked_ok_bind,
      checked_pure]
  · have hlines : idealLinesAt lut read sensor (k + 1) = idealLinesAt lut read sensor k ++
        (idealHostStep lut read (idealHostAt lut read sensor k) (10 * (k + 1))).2 := by
      rw [idealLinesAt, htimes, answers_append, answers_cons, answers_nil, List.append_nil]
      rfl
    rw [hlines, hnext, idealHostAt, htimes, after_append]
    rw [List.append_assoc] at hinv₃
    exact hinv₃.mono hbound

theorem hostTick_inv {r : HostRun S} (h : TickInv lut read sensor k r) :
    ∃ r', hostTick lut read r = .ok r' ∧ TickInv lut read sensor (k + 1) r' := by
  have hpass : ∃ σ', (idealDue (10 * (k + 1)) (hostTasksAt k)).foldlM
        (fun σ fn => hostExec lut read (UInt32.ofNat (10 * (k + 1))) fn σ) r.host = .ok σ' ∧
      HostInv (idealHostAt lut read sensor (k + 1)) (idealLinesAt lut read sensor (k + 1))
        (hostNextSample (k + 1)) (hostPending (k + 1)) σ' := by
    by_cases hsample : k = 0 ∨ 100 ∣ k + 1
    · exact hostPass_sample hsample h.host
    · exact hostPass_quiet hsample h.host
  obtain ⟨σ', hfold, hinv⟩ := hpass
  have hnow : r.nowMs + 10 = UInt32.ofNat (10 * (k + 1)) := by
    rw [h.nowMs, Nat.mul_succ, UInt32.ofNat_add]
    rfl
  have hgap : CallGap (10 * k) (10 * (k + 1)) := ⟨by omega, by omega⟩
  have hrun := schedRunTasks_wrapped (hostExec lut read (UInt32.ofNat (10 * (k + 1)))) hgap
    (hostTasksAt k) r.host (scheduled_hostTasksAt k)
  rw [hfold, checked_ok_bind, pass_hostTasksAt] at hrun
  refine ⟨⟨_, _, σ'⟩, ?_, rfl, rfl, hinv⟩
  simp only [hostTick, hnow, schedRunOnce, h.sched, hrun, checked_ok_bind, checked_pure]
  rfl

/-- The erased flash leads to the default configuration. -/
theorem appLoadedCfg_mockFlashInit :
    appLoadedCfg hostFlash mockFlashInit = storageLoadDefaults := by
  have hslot : storageValidate (configOfImage (hostSlot mockFlashInit 0)) = false := by
    apply storageValidate_configOfImage_erased
    rfl
  simp only [appLoadedCfg, storageLoad_hostFlash, hslot, storageValidate_mockFlashInit,
    Bool.false_eq_true, if_false]
  rfl

theorem hostStart_inv : TickInv lut read sensor 0 (hostStart sensor) := by
  have hsched : (hostStart sensor).sched = ⟨(hostTasksAt 0).map IdealTask.wrapped, 4⟩ := by
    rw [hostStart, schedRegistered_eq_wrapped 4 (by decide)]
    rfl
  have hctrl : (appInit hostFlash ⟨[], 0⟩ mockFlashInit).app.ctrl =
      ctrlInit (some (ctrlCfgOf storageLoadDefaults)) := by
    rw [appInit, appLoadedCfg_mockFlashInit]
  have hstart : Refines (ctrlInit (some (ctrlCfgOf storageLoadDefaults)))
      (idealStart hostIdealConfig .starting) :=
    refines_start ⟨[], 0⟩ (.init (some (ctrlCfgOf storageLoadDefaults)))
  have hempty : Logged [] 0 hostLoggerInit [] :=
    ⟨loggerInv_init _, Nat.le_refl 0, [], rfl, rfl⟩
  have hinit : HostInv (idealHostStart sensor) [] 0 0 ⟨sensor,
      appInit hostFlash ⟨[], 0⟩ mockFlashInit, diagInit 0, .info, hostLoggerInit, []⟩ := by
    refine ⟨rfl, rfl, ?_, ?_, rfl, ⟨rfl, rfl, rfl, rfl, rfl, rfl, fun _ => rfl⟩, hempty⟩
    · rw [hctrl]
      exact hstart
    · rw [hctrl]
      rfl
  have hline : HostRecord.boot.ideal = IdealLine.boot.wrapped := rfl
  have hboot := hostLoggerFlush_inv (hinit.write hline (show _ ≤ 42 by decide) (by decide))
  rw [← logBoot_eq] at hboot
  exact ⟨rfl, hsched, hboot⟩

variable (lut read sensor) in
theorem hostTicks_inv (n : Nat) :
    ∃ r, hostTicks lut read sensor n = .ok r ∧ TickInv lut read sensor n r := by
  induction n with
  | zero => exact ⟨_, rfl, hostStart_inv⟩
  | succ n ih =>
      obtain ⟨r, hr, hinv⟩ := ih
      obtain ⟨r', hr', hinv'⟩ := hostTick_inv hinv
      refine ⟨r', ?_, hinv'⟩
      rw [hostTicks, hr]
      exact hr'

variable (lut read sensor) in
/-- The run returns, and its output is the text of records that stand for the ideal log. -/
theorem hostMain_records (n : Nat) :
    ∃ records : List HostRecord,
      hostMain lut read sensor n = .ok (records.flatMap HostRecord.chars) ∧
        records.map HostRecord.ideal = (idealHostLog lut read sensor n).map IdealLine.wrapped := by
  obtain ⟨r, hr, htick⟩ := hostTicks_inv lut read sensor n
  have hinv := hostLoggerFlush_inv htick.host
  -- the last line
  obtain ⟨hcounts, huptime⟩ := hinv.diag.ideal_countsLine (10 * n)
  have hrecord : (doneRecord r.nowMs (hostLoggerFlush r.host).diag).ideal =
      (IdealLine.done (10 * n) (10 * n) (idealHostAt lut read sensor n).counts).wrapped := by
    rw [htick.nowMs, doneRecord, HostRecord.ideal, hcounts]
    simp only [countsLine, huptime, toNat_ofNat_u32]
    rfl
  have hdone := hostLoggerFlush_inv
    (hinv.write hrecord (length_doneRecord_le _ _) (by decide))
  obtain ⟨records, hchars, hlines⟩ := hdone.logged.stdout_eq
  refine ⟨records, ?_, hlines⟩
  rw [hostMain, hr, checked_ok_bind, ← hchars]
  simp only [logDone_eq, checked_ok_bind]
  rfl

/-- For every sensor and every number of ticks the runner returns, and what it has written is, to
the last character, the lines of records that read back as the log of the ideal host: no character
is dropped, and every number is the ideal one. -/
theorem host_log_is_ideal_log (lut : DewpointLut) (read : S → (Err × Sample) × S) (sensor : S)
    (n : Nat) :
    ∃ out records, hostMain lut read sensor n = .ok out ∧
      out = records.flatMap HostRecord.chars ∧ readLog out = some records ∧
      records.map HostRecord.ideal = (idealHostLog lut read sensor n).map IdealLine.wrapped := by
  obtain ⟨records, hout, hlines⟩ := hostMain_records lut read sensor n
  exact ⟨_, records, hout, rfl, readLog_flatMap records, hlines⟩

end Run

/-! ## The mock sensor -/

section Mock

open ClimateNode.Drivers

/-- On the mock sensor the ideal host keeps its relay off. -/
theorem dry_idealHostStep {h : IdealHost UInt32} (hdry : Dry 2200 2300 h.ctrl) (ms : Nat) :
    Dry 2200 2300 (idealHostStep dewpointLnRhQ10 mockSensorRead h ms).1.ctrl := by
  have hreading : ∀ r, portReading (mockSensorRead h.sensor).1 = some r →
      InBand 2200 2300 6500 r := fun r hr => mockSensorRead_inBand h.sensor r hr
  exact hdry.update rfl mockBand_dry _ hreading

theorem relay_off_answers (times : List Nat) :
    ∀ {h : IdealHost UInt32}, Dry 2200 2300 h.ctrl →
      ∀ line ∈ answers (idealHostStep dewpointLnRhQ10 mockSensorRead) h times,
        ∀ ms report, line = .sample ms report → report.relay = false := by
  induction times with
  | nil => exact fun _ line hline => absurd hline List.not_mem_nil
  | cons t times ih =>
      intro h hdry line hline ms report heq
      have hnext := dry_idealHostStep hdry t
      rcases List.mem_append.1 hline with hline | hline
      · rcases List.mem_pair.1 hline with hline | hline
        · rw [heq] at hline
          cases hline
          exact hnext.off
        · rw [heq] at hline
          cases hline
      · exact ih hnext line hline ms report heq

/-- In a run with the mock sensor, of any length and from any step of it, no line shows the relay
on. -/
theorem mock_log_relay_off (step : UInt32) (n : Nat) :
    ∃ out records, hostMain dewpointLnRhQ10 mockSensorRead step n = .ok out ∧
      readLog out = some records ∧ ∀ l, .control l ∈ records → l.relayOn = false := by
  obtain ⟨records, hout, hlines⟩ := hostMain_records dewpointLnRhQ10 mockSensorRead step n
  refine ⟨_, records, hout, readLog_flatMap records, ?_⟩
  intro l hl
  have hmem : (HostRecord.control l).ideal ∈
      (idealHostLog dewpointLnRhQ10 mockSensorRead step n).map IdealLine.wrapped := by
    rw [← hlines]
    exact List.mem_map_of_mem hl
  obtain ⟨line, hline, hwrapped⟩ := List.mem_map.1 hmem
  have hstart : Dry 2200 2300 (idealHostStart step).ctrl :=
    ⟨rfl, fun t ht => absurd ht List.not_mem_nil⟩
  cases line with
  | sample ms report =>
      have hrelay : report.relay = l.relayOn :=
        congrArg IdealReport.relay (IdealLine.sample.inj hwrapped).2
      rw [← hrelay]
      rcases List.mem_append.1 hline with hline | hline
      · rcases List.mem_cons.1 hline with hline | hline
        · cases hline
        · exact relay_off_answers _ hstart _ hline ms report rfl
      · cases List.mem_singleton.1 hline
  | boot => cases hwrapped
  | counts ms uptime c mode => cases hwrapped
  | done ms uptime c => cases hwrapped

end Mock

end ClimateNode.Application
