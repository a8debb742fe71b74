import ClimateNode.App.App
import ClimateNode.Core.Diagnostics
import ClimateNode.Service.LogFields

/-!
# The log of the host runner

The lines that `app/main_host.c` writes: the boot line, a line for each processed sample, the
diagnostics and the last line. `readLog` reads a whole log back, and what the runner writes reads
back as the values it was given (`host_log_reads_back`): no two records share a text, and the log
needs no other framing than its lines.
-/

set_option autoImplicit false

namespace ClimateNode.Application

open ClimateNode.Core ClimateNode.Service ClimateNode.Machine

/-- `state_name`. -/
def stateName : CtrlState → List UInt8
  | .init => cChars "INIT"
  | .warmup => cChars "WARMUP"
  | .run => cChars "RUN"
  | .sensorFault => cChars "SENSOR_FAULT"
  | .mathFault => cChars "MATH_FAULT"
  | .safe => cChars "SAFE"

section Lines

variable {σ : Type} (put : σ → UInt8 → σ)

/-- The boot line of `main`. -/
def logBoot (s : σ) : σ :=
  loggerNewLine put (loggerWriteText put s (cChars "[BOOT] climate-node host runner started"))

/-- `log_control_result`. -/
def logControlResult (level : LogLevel) (nowMs : UInt32) (r : AppReport) (e : Err) (s : σ) :
    Checked σ :=
  if !loggerLevelEnabled level .info then pure s
  else do
    let s ← logTimestamp put s nowMs
    let s := loggerWriteText put s (cChars "state=")
    let s := loggerWriteText put s (stateName r.state)
    let s := loggerWriteText put s (cChars " err=")
    let s := loggerWriteText put s (errStr e)
    let s := loggerWriteText put s (cChars " T=")
    let s ← loggerWriteFixedCd put s r.filteredTempCd
    let s := loggerWriteText put s (cChars " RH=")
    let s ← loggerWriteFixedCp put s r.humidityCp
    let s := loggerWriteText put s (cChars " DP=")
    let s ← loggerWriteFixedCd put s r.dewPointCd
    let s := loggerWriteText put s (cChars " RELAY=")
    let s := put s (if r.relayOn then 0x31 else 0x30)
    return loggerNewLine put s

/-- The counters as `diagnostics_task` and the end of `main` write them, behind `title`. -/
def logCounts (title : List UInt8) (nowMs : UInt32) (d : Diagnostics) (s : σ) : Checked σ := do
  let s ← logTimestamp put s nowMs
  let s := loggerWriteText put s title
  let s ← loggerWriteU32 put s (diagUptimeMs d nowMs)
  let s := loggerWriteText put s (cChars " samples=")
  let s ← loggerWriteU32 put s d.sampleCount
  let s := loggerWriteText put s (cChars " fault_events=")
  let s ← loggerWriteU32 put s d.faultEvents
  let s := loggerWriteText put s (cChars " sensor_errors=")
  let s ← loggerWriteU32 put s d.sensorErrorCount
  let s := loggerWriteText put s (cChars " warmups=")
  loggerWriteU32 put s d.warmupCount

/-- The line of `diagnostics_task`. -/
def logDiagnostics (nowMs : UInt32) (d : Diagnostics) (s : σ) : Checked σ := do
  let s ← logCounts put (cChars "DIAG uptime=") nowMs d s
  let s := loggerWriteText put s (cChars " state=")
  let s := loggerWriteText put s (stateName d.lastState)
  return loggerNewLine put s

/-- The last line of `main`. -/
def logDone (nowMs : UInt32) (d : Diagnostics) (s : σ) : Checked σ := do
  let s ← logCounts put (cChars "DONE uptime=") nowMs d s
  return loggerNewLine put s

end Lines

/-! ## Records -/

/-- What the line of a processed sample says. -/
structure ControlLine where
  nowMs : UInt32
  state : CtrlState
  err : Err
  tempCd : TempCd
  rhCp : RhCp
  dewCd : TempCd
  relayOn : Bool
  deriving DecidableEq, Repr

/-- What a line with the counters says. -/
structure CountsLine where
  nowMs : UInt32
  uptimeMs : UInt32
  samples : UInt32
  faultEvents : UInt32
  sensorErrors : UInt32
  warmups : UInt32
  deriving DecidableEq, Repr

/-- A line of the log. -/
inductive HostRecord where
  | boot
  | control (line : ControlLine)
  | diag (line : CountsLine) (state : CtrlState)
  | done (line : CountsLine)
  deriving DecidableEq, Repr

/-- The record of a processed sample. -/
def controlRecord (nowMs : UInt32) (r : AppReport) (e : Err) : HostRecord :=
  .control ⟨nowMs, r.state, e, r.filteredTempCd, r.humidityCp, r.dewPointCd, r.relayOn⟩

/-- The counters at `nowMs`. -/
def countsLine (nowMs : UInt32) (d : Diagnostics) : CountsLine :=
  ⟨nowMs, diagUptimeMs d nowMs, d.sampleCount, d.faultEvents, d.sensorErrorCount, d.warmupCount⟩

def diagRecordLine (nowMs : UInt32) (d : Diagnostics) : HostRecord :=
  .diag (countsLine nowMs d) d.lastState

def doneRecord (nowMs : UInt32) (d : Diagnostics) : HostRecord := .done (countsLine nowMs d)

def bootText : List UInt8 := cChars "[BOOT] climate-node host runner started" ++ [0x0D]

def controlLabels : List (List UInt8) :=
  [[0x5B], cChars "] " ++ cChars "state=", cChars " err=", cChars " T=", cChars " RH=",
    cChars " DP=", cChars " RELAY=", [0x0D]]

def countsLabels (title : List UInt8) : List (List UInt8) :=
  [[0x5B], cChars "] " ++ title, cChars " samples=", cChars " fault_events=",
    cChars " sensor_errors=", cChars " warmups="]

def diagLabels : List (List UInt8) :=
  countsLabels (cChars "DIAG uptime=") ++ [cChars " state=", [0x0D]]

def doneLabels : List (List UInt8) := countsLabels (cChars "DONE uptime=") ++ [[0x0D]]

def flagChars (b : Bool) : List UInt8 := [if b then 0x31 else 0x30]

def ControlLine.fields (l : ControlLine) : List (List UInt8) :=
  [paddedChars l.nowMs 6, stateName l.state, errStr l.err,
    signChars l.tempCd ++ fixedChars l.tempCd.toInt.natAbs, fixedChars l.rhCp.toNat,
    signChars l.dewCd ++ fixedChars l.dewCd.toInt.natAbs, flagChars l.relayOn]

def CountsLine.fields (l : CountsLine) : List (List UInt8) :=
  [paddedChars l.nowMs 6, decimalNumeral l.uptimeMs.toNat, decimalNumeral l.samples.toNat,
    decimalNumeral l.faultEvents.toNat, decimalNumeral l.sensorErrors.toNat,
    decimalNumeral l.warmups.toNat]

/-- The text of a record, without the line feed. -/
def HostRecord.text : HostRecord → List UInt8
  | .boot => bootText
  | .control l => writeFields controlLabels l.fields
  | .diag l state => writeFields diagLabels (l.fields ++ [stateName state])
  | .done l => writeFields doneLabels l.fields

/-- The characters of a record. -/
def HostRecord.chars (r : HostRecord) : List UInt8 := r.text ++ [0x0A]

/-! ## What is written -/

theorem isNameChar_stateName (s : CtrlState) : ∀ c ∈ stateName s, IsNameChar c := by
  intro c hc
  have hall : (stateName s).all (fun c => decide (IsNameChar c)) = true := by
    cases s <;> decide
  exact of_decide_eq_true (List.all_eq_true.1 hall c hc)

section Written

variable {σ : Type} (put : σ → UInt8 → σ)

theorem loggerWriteText_stateName (s : σ) (state : CtrlState) :
    loggerWriteText put s (stateName state) = (stateName state).foldl put s :=
  loggerWriteText_eq put s fun c hc => (isNameChar_stateName state c hc).ne.1

theorem loggerWriteText_errStr (s : σ) (e : Err) :
    loggerWriteText put s (errStr e) = (errStr e).foldl put s :=
  loggerWriteText_eq put s fun c hc => (isNameChar_errStr e c hc).ne.1

/-- A literal without zeros is written whole. -/
theorem loggerWriteText_cChars (s : σ) (text : String)
    (h : (cChars text).all (fun c => decide (c ≠ 0)) = true) :
    loggerWriteText put s (cChars text) = (cChars text).foldl put s :=
  loggerWriteText_eq put s (cChars_ne_zero text h)

theorem logBoot_eq (s : σ) : logBoot put s = HostRecord.boot.chars.foldl put s := by
  rw [logBoot, loggerWriteText_cChars put s _ (by decide), HostRecord.chars, HostRecord.text,
    bootText, List.foldl_append, List.foldl_append]
  rfl

theorem logControlResult_eq (level : LogLevel) (hlevel : loggerLevelEnabled level .info = true)
    (nowMs : UInt32) (r : AppReport) (e : Err) (s : σ) :
    logControlResult put level nowMs r e s =
      .ok ((controlRecord nowMs r e).chars.foldl put s) := by
  have h₁ := fun s => loggerWriteText_cChars put s "state=" (by decide)
  have h₂ := fun s => loggerWriteText_cChars put s " err=" (by decide)
  have h₃ := fun s => loggerWriteText_cChars put s " T=" (by decide)
  have h₄ := fun s => loggerWriteText_cChars put s " RH=" (by decide)
  have h₅ := fun s => loggerWriteText_cChars put s " DP=" (by decide)
  have h₆ := fun s => loggerWriteText_cChars put s " RELAY=" (by decide)
  simp only [logControlResult, hlevel, Bool.not_true, Bool.false_eq_true, if_false, logTimestamp_eq,
    loggerWriteFixedCd_eq, loggerWriteFixedCp, loggerWriteFixedMag_eq, checked_ok_bind,
    checked_pure, h₁, h₂, h₃, h₄, h₅, h₆, loggerWriteText_stateName, loggerWriteText_errStr]
  simp only [controlRecord, HostRecord.chars, HostRecord.text, controlLabels, ControlLine.fields,
    flagChars, writeFields, timestampChars, List.foldl_append, List.foldl_cons, List.foldl_nil,
    List.cons_append, List.nil_append]
  rfl

/-- The text of the counters, without what follows on the line. -/
def countsChars (title : List UInt8) (l : CountsLine) : List UInt8 :=
  timestampChars l.nowMs ++ (title ++ decimalNumeral l.uptimeMs.toNat ++
    (cChars " samples=" ++ decimalNumeral l.samples.toNat ++
      (cChars " fault_events=" ++ decimalNumeral l.faultEvents.toNat ++
        (cChars " sensor_errors=" ++ decimalNumeral l.sensorErrors.toNat ++
          (cChars " warmups=" ++ decimalNumeral l.warmups.toNat)))))

theorem logCounts_eq {title : List UInt8} (htitle : ∀ c ∈ title, c ≠ 0) (nowMs : UInt32)
    (d : Diagnostics) (s : σ) :
    logCounts put title nowMs d s =
      .ok ((countsChars title (countsLine nowMs d)).foldl put s) := by
  have h₀ := fun s => loggerWriteText_eq put s htitle
  have h₁ := fun s => loggerWriteText_cChars put s " samples=" (by decide)
  have h₂ := fun s => loggerWriteText_cChars put s " fault_events=" (by decide)
  have h₃ := fun s => loggerWriteText_cChars put s " sensor_errors=" (by decide)
  have h₄ := fun s => loggerWriteText_cChars put s " warmups=" (by decide)
  simp only [logCounts, logTimestamp_eq, loggerWriteU32_eq, checked_ok_bind, h₀, h₁, h₂, h₃, h₄]
  simp only [countsChars, countsLine, List.foldl_append]

theorem logDiagnostics_eq (nowMs : UInt32) (d : Diagnostics) (s : σ) :
    logDiagnostics put nowMs d s = .ok ((diagRecordLine nowMs d).chars.foldl put s) := by
  have htitle := cChars_ne_zero "DIAG uptime=" (by decide)
  have hstate := fun s => loggerWriteText_cChars put s " state=" (by decide)
  simp only [logDiagnostics, logCounts_eq put htitle, checked_ok_bind, checked_pure, hstate,
    loggerWriteText_stateName]
  simp only [diagRecordLine, HostRecord.chars, HostRecord.text, diagLabels, countsLabels,
    CountsLine.fields, writeFields, countsChars, timestampChars, List.foldl_append,
    List.foldl_cons, List.foldl_nil, List.cons_append, List.nil_append]
  rfl

theorem logDone_eq (nowMs : UInt32) (d : Diagnostics) (s : σ) :
    logDone put nowMs d s = .ok ((doneRecord nowMs d).chars.foldl put s) := by
  have htitle := cChars_ne_zero "DONE uptime=" (by decide)
  simp only [logDone, logCounts_eq put htitle, checked_ok_bind, checked_pure]
  simp only [doneRecord, HostRecord.chars, HostRecord.text, doneLabels, countsLabels,
    CountsLine.fields, writeFields, countsChars, timestampChars, List.foldl_append,
    List.foldl_cons, List.foldl_nil, List.cons_append, List.nil_append]
  rfl

end Written

/-! ## Reading -/

/-- The state with the name `name`. -/
def readState (name : List UInt8) : Option CtrlState :=
  [CtrlState.init, .warmup, .run, .sensorFault, .mathFault, .safe].find? fun s =>
    decide (stateName s = name)

/-- The code with the name `name`. -/
def readErr (name : List UInt8) : Option Err :=
  [Err.ok, .invalidArg, .outOfRange, .notReady, .warmup, .sensor, .math, .state, .comm, .storage,
    .config, .hw, .notFound].find? fun e => decide (errStr e = name)

def readFlag (field : List UInt8) : Option Bool :=
  if field = [0x31] then some true else if field = [0x30] then some false else none

def readU32 (field : List UInt8) : Option UInt32 := (readNumber field).bind asU32

def ControlLine.ofFields : List (List UInt8) → Option ControlLine
  | [ms, state, err, temp, rh, dew, relay] => do
      let nowMs ← readU32 ms
      let state ← readState state
      let err ← readErr err
      let tempCd ← (readSigned temp).bind asI32
      let rhCp ← (readHundredths rh).bind asU32
      let dewCd ← (readSigned dew).bind asI32
      let relayOn ← readFlag relay
      return ⟨nowMs, state, err, tempCd, rhCp, dewCd, relayOn⟩
  | _ => none

def CountsLine.ofFields : List (List UInt8) → Option CountsLine
  | [ms, uptime, samples, faultEvents, sensorErrors, warmups] => do
      let nowMs ← readU32 ms
      let uptimeMs ← readU32 uptime
      let samples ← readU32 samples
      let faultEvents ← readU32 faultEvents
      let sensorErrors ← readU32 sensorErrors
      let warmups ← readU32 warmups
      return ⟨nowMs, uptimeMs, samples, faultEvents, sensorErrors, warmups⟩
  | _ => none

/-- The record with the text `text`. -/
def readRecord (text : List UInt8) : Option HostRecord :=
  if text = bootText then some .boot
  else
    match readFields controlLabels text with
    | some fields => (ControlLine.ofFields fields).map .control
    | none =>
        match readFields diagLabels text with
        | some fields => do
            let line ← CountsLine.ofFields fields.dropLast
            let state ← readState (fields.getLastD [])
            return .diag line state
        | none => do
            let fields ← readFields doneLabels text
            let line ← CountsLine.ofFields fields
            return .done line

/-- The records of a log that ends with a line. -/
def readLog (log : List UInt8) : Option (List HostRecord) :=
  let lines := log.splitOn 0x0A
  if lines.getLast? = some [] then lines.dropLast.mapM readRecord else none

section Reading

theorem readState_stateName (s : CtrlState) : readState (stateName s) = some s := by
  cases s <;> decide

theorem readErr_errStr (e : Err) : readErr (errStr e) = some e := by
  cases e <;> decide

theorem readFlag_flagChars (b : Bool) : readFlag (flagChars b) = some b := by
  cases b <;> decide

theorem readU32_decimalNumeral (x : UInt32) : readU32 (decimalNumeral x.toNat) = some x := by
  rw [readU32, readNumber_decimalNumeral, Option.bind_some, asU32_toNat]

theorem readU32_paddedChars (x : UInt32) : readU32 (paddedChars x 6) = some x := by
  rw [readU32, readNumber_paddedChars, Option.bind_some, asU32_toNat]

theorem ControlLine.ofFields_fields (l : ControlLine) : ofFields l.fields = some l := by
  simp only [ofFields, fields, readU32_paddedChars, readState_stateName, readErr_errStr,
    readSigned_fixed, readHundredths_fixedChars, asI32_toInt, asU32_toNat, readFlag_flagChars,
    Option.bind_eq_bind, Option.bind_some]
  rfl

theorem CountsLine.ofFields_fields (l : CountsLine) : ofFields l.fields = some l := by
  simp only [ofFields, fields, readU32_paddedChars, readU32_decimalNumeral, Option.bind_eq_bind,
    Option.bind_some]
  rfl

/-- A field of field characters does not hold a character that ends fields or lines. -/
theorem not_mem_field {field : List UInt8} {c : UInt8} (h : ∀ x ∈ field, IsFieldChar x)
    (hc : isStop c = true) : c ∉ field := by
  intro hmem
  have := (h c hmem).not_stop
  rw [hc] at this
  cases this

theorem isFieldChar_flagChars (b : Bool) : ∀ c ∈ flagChars b, IsFieldChar c := by
  intro c hc
  have hall : (flagChars b).all (fun c => decide (IsFieldChar c)) = true := by
    cases b <;> decide
  exact of_decide_eq_true (List.all_eq_true.1 hall c hc)

theorem ControlLine.isFieldChar_fields (l : ControlLine) :
    ∀ f ∈ l.fields, ∀ c ∈ f, IsFieldChar c := by
  simp only [fields, List.forall_mem_cons, List.not_mem_nil]
  refine ⟨?_, ?_, ?_, ?_, ?_, ?_, ?_, nofun⟩
  · exact isFieldChar_of_digits (isDigit_paddedChars _ _)
  · exact fun c hc => Or.inl (isNameChar_stateName _ c hc)
  · exact fun c hc => Or.inl (isNameChar_errStr _ c hc)
  · exact isFieldChar_signed _ _
  · exact isFieldChar_fixedChars _
  · exact isFieldChar_signed _ _
  · exact isFieldChar_flagChars _

theorem CountsLine.isFieldChar_fields (l : CountsLine) :
    ∀ f ∈ l.fields, ∀ c ∈ f, IsFieldChar c := by
  have hnumeral : ∀ n, ∀ c ∈ decimalNumeral n, IsFieldChar c := fun n =>
    isFieldChar_of_digits (isNumeral_decimalNumeral n).digits
  simp only [fields, List.forall_mem_cons, List.not_mem_nil]
  refine ⟨?_, hnumeral _, hnumeral _, hnumeral _, hnumeral _, hnumeral _, nofun⟩
  exact isFieldChar_of_digits (isDigit_paddedChars _ _)

theorem fieldsFit_cons {label next : List UInt8} {labels fields : List (List UInt8)}
    {field : List UInt8} {c : UInt8} (hnext : next.head? = some c) (hc : isStop c = true)
    (hfield : ∀ x ∈ field, IsFieldChar x) (h : FieldsFit (next :: labels) fields) :
    FieldsFit (label :: next :: labels) (field :: fields) :=
  ⟨⟨c, hnext, not_mem_field hfield hc⟩, h⟩

theorem fieldsFit_control (l : ControlLine) : FieldsFit controlLabels l.fields := by
  have h := l.isFieldChar_fields
  simp only [ControlLine.fields, List.forall_mem_cons] at h
  obtain ⟨h₁, h₂, h₃, h₄, h₅, h₆, h₇, -⟩ := h
  apply fieldsFit_cons rfl rfl h₁
  apply fieldsFit_cons rfl rfl h₂
  apply fieldsFit_cons rfl rfl h₃
  apply fieldsFit_cons rfl rfl h₄
  apply fieldsFit_cons rfl rfl h₅
  apply fieldsFit_cons rfl rfl h₆
  apply fieldsFit_cons rfl rfl h₇
  trivial

theorem fieldsFit_counts (title : List UInt8) (l : CountsLine) (labels fields : List (List UInt8))
    (h : ∀ warmups : List UInt8, (∀ x ∈ warmups, IsFieldChar x) →
      FieldsFit (cChars " warmups=" :: labels) (warmups :: fields)) :
    FieldsFit (countsLabels title ++ labels) (l.fields ++ fields) := by
  have hf := l.isFieldChar_fields
  simp only [CountsLine.fields, List.forall_mem_cons] at hf
  obtain ⟨h₁, h₂, h₃, h₄, h₅, h₆, -⟩ := hf
  apply fieldsFit_cons rfl rfl h₁
  apply fieldsFit_cons rfl rfl h₂
  apply fieldsFit_cons rfl rfl h₃
  apply fieldsFit_cons rfl rfl h₄
  apply fieldsFit_cons rfl rfl h₅
  exact h _ h₆

theorem fieldsFit_diag (l : CountsLine) (state : CtrlState) :
    FieldsFit diagLabels (l.fields ++ [stateName state]) := by
  refine fieldsFit_counts _ l _ _ fun warmups hwarmups => ?_
  apply fieldsFit_cons rfl rfl hwarmups
  exact fieldsFit_cons rfl rfl (fun c hc => Or.inl (isNameChar_stateName state c hc)) trivial

theorem fieldsFit_done (l : CountsLine) : FieldsFit doneLabels l.fields := by
  have h := fieldsFit_counts (cChars "DONE uptime=") l [[0x0D]] []
    fun warmups hwarmups => fieldsFit_cons rfl rfl hwarmups trivial
  rwa [List.append_nil] at h

/-- The first fields and labels of a line with the counters. -/
theorem text_counts (title : List UInt8) (l : CountsLine) (labels fields : List (List UInt8)) :
    ∃ rest, writeFields (countsLabels title ++ labels) (l.fields ++ fields) =
      [0x5B] ++ paddedChars l.nowMs 6 ++ 0x5D :: 0x20 :: (title ++ rest) := by
  refine ⟨decimalNumeral l.uptimeMs.toNat ++
    writeFields ((countsLabels title).drop 2 ++ labels) (l.fields.drop 2 ++ fields), ?_⟩
  simp only [countsLabels, CountsLine.fields, List.cons_append, writeFields, List.append_assoc]
  rfl

/-- A line with counters is not one of a processed sample. -/
theorem readFields_control_counts (title : List UInt8) (l : CountsLine)
    (labels fields : List (List UInt8)) (htitle : title.head? = some 0x44) :
    readFields controlLabels (writeFields (countsLabels title ++ labels) (l.fields ++ fields)) =
      none := by
  obtain ⟨rest, hrest⟩ := text_counts title l labels fields
  obtain ⟨title, rfl⟩ : ∃ t, title = 0x44 :: t := by
    cases title with
    | nil => cases htitle
    | cons c t => exact ⟨t, by rw [Option.some.inj htitle]⟩
  rw [hrest]
  apply readFields_of_other rfl
  · exact not_mem_field (isFieldChar_of_digits (isDigit_paddedChars _ _)) rfl
  · rfl

theorem readFields_diag_done (l : CountsLine) :
    readFields diagLabels (writeFields doneLabels l.fields) = none := by
  obtain ⟨rest, hrest⟩ := text_counts (cChars "DONE uptime=") l [[0x0D]] []
  rw [List.append_nil] at hrest
  rw [doneLabels, hrest]
  apply readFields_of_other rfl
  · exact not_mem_field (isFieldChar_of_digits (isDigit_paddedChars _ _)) rfl
  · rfl

/-- A line with a time stamp is not the boot line. -/
theorem writeFields_ne_bootText {labels fields : List (List UInt8)} (x : UInt32) :
    writeFields ([0x5B] :: labels) (paddedChars x 6 :: fields) ≠ bootText := by
  have hne : paddedChars x 6 ≠ [] :=
    List.append_ne_nil_of_right_ne_nil _ (isNumeral_decimalNumeral x.toNat).ne_nil
  obtain ⟨c, cs, hcs⟩ := List.exists_cons_of_ne_nil hne
  have hdigit := isDigit_paddedChars x 6 c (by rw [hcs]; exact List.mem_cons_self ..)
  rw [writeFields, hcs]
  intro heq
  have hc : c = 0x42 := (List.cons.inj (List.cons.inj heq).2).1
  rw [hc] at hdigit
  exact absurd hdigit (by decide)

theorem readRecord_text (r : HostRecord) : readRecord r.text = some r := by
  cases r with
  | boot => exact if_pos rfl
  | control l =>
      have hne : writeFields controlLabels l.fields ≠ bootText := writeFields_ne_bootText l.nowMs
      rw [HostRecord.text, readRecord, if_neg hne, readFields_writeFields (fieldsFit_control l)]
      simp only [ControlLine.ofFields_fields, Option.map_some]
  | diag l state =>
      have hne : writeFields diagLabels (l.fields ++ [stateName state]) ≠ bootText :=
        writeFields_ne_bootText l.nowMs
      have hcontrol : readFields controlLabels
          (writeFields diagLabels (l.fields ++ [stateName state])) = none :=
        readFields_control_counts _ l _ _ rfl
      rw [HostRecord.text, readRecord, if_neg hne, hcontrol,
        readFields_writeFields (fieldsFit_diag l state)]
      simp only [List.dropLast_concat, List.getLastD_concat, CountsLine.ofFields_fields,
        readState_stateName, Option.bind_eq_bind, Option.bind_some]
      rfl
  | done l =>
      have hne : writeFields doneLabels l.fields ≠ bootText := writeFields_ne_bootText l.nowMs
      have hcontrol : readFields controlLabels (writeFields doneLabels l.fields) = none := by
        have h := readFields_control_counts (cChars "DONE uptime=") l [[0x0D]] [] rfl
        rwa [List.append_nil] at h
      rw [HostRecord.text, readRecord, if_neg hne, hcontrol, readFields_diag_done,
        readFields_writeFields (fieldsFit_done l)]
      simp only [CountsLine.ofFields_fields, Option.bind_eq_bind, Option.bind_some]
      rfl

/-- The line feed is behind the text only. -/
theorem lineFeed_notMem_writeFields {labels fields : List (List UInt8)}
    (hlabels : labels.all (fun l => l.all fun c => decide (c ≠ 0x0A)) = true)
    (hfields : ∀ f ∈ fields, ∀ c ∈ f, IsFieldChar c) :
    (0x0A : UInt8) ∉ writeFields labels fields := by
  intro hmem
  rcases mem_writeFields hmem with ⟨l, hl, hc⟩ | ⟨f, hf, hc⟩
  · have hall := List.all_eq_true.1 (List.all_eq_true.1 hlabels l hl) _ hc
    exact of_decide_eq_true hall rfl
  · exact not_mem_field (hfields f hf) rfl hc

theorem lineFeed_notMem_text (r : HostRecord) : (0x0A : UInt8) ∉ r.text := by
  cases r with
  | boot => decide
  | control l => exact lineFeed_notMem_writeFields (by decide) l.isFieldChar_fields
  | diag l state =>
      apply lineFeed_notMem_writeFields (by decide)
      intro f hf
      rcases List.mem_append.1 hf with hf | hf
      · exact l.isFieldChar_fields f hf
      · rw [List.mem_singleton.1 hf]
        exact fun c hc => Or.inl (isNameChar_stateName state c hc)
  | done l => exact lineFeed_notMem_writeFields (by decide) l.isFieldChar_fields

theorem mapM_readRecord (rs : List HostRecord) :
    (rs.map HostRecord.text).mapM readRecord = some rs := by
  induction rs with
  | nil => rfl
  | cons r rs ih =>
      rw [List.map_cons, List.mapM_cons, readRecord_text, ih]
      rfl

/-- A log reads back as its records. -/
theorem readLog_flatMap (rs : List HostRecord) :
    readLog (rs.flatMap HostRecord.chars) = some rs := by
  have hlines : rs.flatMap HostRecord.chars = markedLines 0x0A (rs.map HostRecord.text) := by
    rw [markedLines, List.flatMap_map]
    rfl
  have hmark : ∀ line ∈ rs.map HostRecord.text, (0x0A : UInt8) ∉ line := by
    intro line hline
    obtain ⟨r, -, rfl⟩ := List.mem_map.1 hline
    exact lineFeed_notMem_text r
  rw [readLog, hlines, splitOn_markedLines hmark]
  simp only [List.getLast?_concat, List.dropLast_concat, if_true, mapM_readRecord]

end Reading

/-! ## The log of any sequence of calls -/

/-- A call of one of the functions that write lines. -/
inductive HostLogCall where
  | boot
  | control (nowMs : UInt32) (r : AppReport) (e : Err)
  | diag (nowMs : UInt32) (d : Diagnostics)
  | done (nowMs : UInt32) (d : Diagnostics)
  deriving DecidableEq, Repr

/-- What the call writes, at the level `main` sets. -/
def HostLogCall.write {σ : Type} (put : σ → UInt8 → σ) (s : σ) : HostLogCall → Checked σ
  | .boot => .ok (logBoot put s)
  | .control nowMs r e => logControlResult put .info nowMs r e s
  | .diag nowMs d => logDiagnostics put nowMs d s
  | .done nowMs d => logDone put nowMs d s

/-- What the call is given, as far as it is written. -/
def HostLogCall.record : HostLogCall → HostRecord
  | .boot => .boot
  | .control nowMs r e => controlRecord nowMs r e
  | .diag nowMs d => diagRecordLine nowMs d
  | .done nowMs d => doneRecord nowMs d

theorem HostLogCall.write_eq {σ : Type} (put : σ → UInt8 → σ) (s : σ) (call : HostLogCall) :
    call.write put s = .ok (call.record.chars.foldl put s) := by
  cases call with
  | boot => exact congrArg Except.ok (logBoot_eq put s)
  | control nowMs r e => exact logControlResult_eq put .info rfl nowMs r e s
  | diag nowMs d => exact logDiagnostics_eq put nowMs d s
  | done nowMs d => exact logDone_eq put nowMs d s

/-- Whatever is logged, in whichever order, the log consists of the lines of what the calls were
given, and it reads back as that. -/
theorem host_log_reads_back (calls : List HostLogCall) :
    ∃ log, run (HostLogCall.write fun out c => out ++ [c]) [] calls = .ok log ∧
      log = (calls.map HostLogCall.record).flatMap HostRecord.chars ∧
      readLog log = some (calls.map HostLogCall.record) := by
  have hstep : ∀ (done : List HostLogCall) (log : List UInt8) (call : HostLogCall),
      log = (done.map HostLogCall.record).flatMap HostRecord.chars → True →
      ∃ log', call.write (fun out c => out ++ [c]) log = .ok log' ∧
        log' = ((done ++ [call]).map HostLogCall.record).flatMap HostRecord.chars := by
    intro done log call hlog _
    refine ⟨_, call.write_eq _ log, ?_⟩
    rw [List.foldl_append_eq_append, ← List.flatMap_def, List.flatMap_singleton', hlog,
      List.map_append, List.flatMap_append, List.map_singleton, List.flatMap_singleton]
  obtain ⟨log, hrun, rfl⟩ := run_of_history
    (R := fun done log => log = (done.map HostLogCall.record).flatMap HostRecord.chars)
    (A := fun _ => True) rfl hstep calls fun _ _ => trivial
  exact ⟨_, hrun, rfl, readLog_flatMap _⟩

end ClimateNode.Application
