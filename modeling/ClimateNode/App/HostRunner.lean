import ClimateNode.App.HostLog
import ClimateNode.App.IdealSampling
import ClimateNode.App.IdealScheduler
import ClimateNode.Platform.TornSlot

/-!
# The host runner

`app/main_host.c`: the application on the emulated platform, with a control, a logger and a
diagnostics task under the scheduler, ten milliseconds a tick. The number of ticks is a parameter,
and so is the sensor, which has a state of its own.

The second half says what each task does, beside an ideal host: the ideal controller, the sensor and
unbounded counters. `HostInv` relates the two. It also says that the characters on the standard
output and the pending ones are together the lines so far, and it bounds the pending ones, so that a
task finds room for its line (`hostControlTask_sample`, `hostDiagnosticsTask_spec`).
-/

set_option autoImplicit false

namespace ClimateNode.Application

open ClimateNode.Core ClimateNode.Service ClimateNode.Machine ClimateNode.Platforms

variable {S : Type}

/-- The tasks that `main` registers. -/
inductive HostTask where
  | control
  | logger
  | diag
  deriving DecidableEq, Repr

/-- The sensor, the application, the diagnostics, the logger with its level, and what was written to
the standard output. -/
structure HostSys (S : Type) where
  sensor : S
  sys : AppSys HostFlash
  diag : Diagnostics
  level : LogLevel
  logger : Logger
  stdout : List UInt8

/-- `platform_write`. -/
def hostPlatformWrite (stdout data : List UInt8) : List UInt8 :=
  if data.length = 0 then stdout else stdout ++ data

/-- `logger_periodic_task`. -/
def hostLoggerTask (σ : HostSys S) : HostSys S :=
  let r := loggerTask hostPlatformWrite σ.logger σ.stdout
  { σ with logger := r.1, stdout := r.2 }

/-- `logger_flush`. -/
def hostLoggerFlush (σ : HostSys S) : HostSys S :=
  let r := loggerFlush hostPlatformWrite σ.logger σ.stdout
  { σ with logger := r.1, stdout := r.2 }

/-- `diagnostics_task`. -/
def hostDiagnosticsTask (nowMs : UInt32) (σ : HostSys S) : Checked (HostSys S) :=
  if !loggerLevelEnabled σ.level .info then pure σ
  else do
    let logger ← logDiagnostics loggerWriteChar nowMs σ.diag σ.logger
    return hostLoggerTask { σ with logger := logger }

section Program

variable (lut : DewpointLut) (read : S → (Err × Sample) × S)

/-- `control_task`. -/
def hostControlTask (nowMs : UInt32) (σ : HostSys S) : Checked (HostSys S) := do
  let r := read σ.sensor
  let step ← appTask lut σ.sys nowMs r.1
  if step.processed then do
    -- only a call that processes a sample has read the sensor
    let report := appReport step.sys.app
    let diag := diagRecord σ.diag nowMs report.state step.err report.relayOn true
    let logger ← logControlResult loggerWriteChar σ.level nowMs report step.err σ.logger
    return { σ with sensor := r.2, sys := step.sys, diag := diag, logger := logger }
  else return { σ with sys := step.sys }

def hostExec (nowMs : UInt32) : HostTask → HostSys S → Checked (HostSys S)
  | .control, σ => hostControlTask lut read nowMs σ
  | .logger, σ => .ok (hostLoggerTask σ)
  | .diag, σ => hostDiagnosticsTask nowMs σ

/-- The loop of `main` between two ticks. -/
structure HostRun (S : Type) where
  sched : Scheduler HostTask
  nowMs : UInt32
  host : HostSys S

/-- `logger_init` on its zeroed variables. -/
def hostLoggerInit : Logger := loggerInit ⟨Vector.replicate loggerBufferSize 0, 0, 0, 0, 0⟩

/-- `main` up to its loop. -/
def hostStart (sensor : S) : HostRun S :=
  let σ : HostSys S :=
    ⟨sensor, appInit hostFlash ⟨[], 0⟩ mockFlashInit, diagInit 0, .info, hostLoggerInit, []⟩
  let sched := schedRegistered 4 [(50, .control), (10, .logger), (1000, .diag)]
  ⟨sched, 0, hostLoggerFlush { σ with logger := logBoot loggerWriteChar σ.logger }⟩

/-- The body of the loop. -/
def hostTick (r : HostRun S) : Checked (HostRun S) := do
  let nowMs := r.nowMs + 10
  let out ← schedRunOnce (hostExec lut read nowMs) r.sched nowMs r.host
  return ⟨out.1, nowMs, out.2.1⟩

/-- The loop after its first passes. -/
def hostTicks (sensor : S) : Nat → Checked (HostRun S)
  | 0 => .ok (hostStart sensor)
  | n + 1 => do
      let r ← hostTicks sensor n
      hostTick lut read r

/-- `main`, with `maxTicks` for its 300 ticks: what it writes to the standard output. -/
def hostMain (sensor : S) (maxTicks : Nat) : Checked (List UInt8) := do
  let r ← hostTicks lut read sensor maxTicks
  let σ := hostLoggerFlush r.host
  let logger ← logDone loggerWriteChar r.nowMs σ.diag σ.logger
  return (hostLoggerFlush { σ with logger := logger }).stdout

end Program

/-! ## The ideal host -/

/-- A line of the log, in unbounded numbers. -/
inductive IdealLine where
  | boot
  | sample (ms : Nat) (report : IdealReport)
  | counts (ms uptime : Nat) (counts : IdealCounts) (mode : IdealMode)
  | done (ms uptime : Nat) (counts : IdealCounts)
  deriving DecidableEq, Repr

/-- The sensor, the ideal controller and the counters. -/
structure IdealHost (S : Type) where
  sensor : S
  ctrl : IdealController
  counts : IdealCounts

/-- The configuration that the runner's empty flash leads to. -/
def hostIdealConfig : IdealConfig := ⟨500, 700, 3, 3, false⟩

section IdealHost

variable (lut : DewpointLut) (read : S → (Err × Sample) × S)

/-- What the next sample makes of the controller, with the returned code. -/
def idealHostUpdate (h : IdealHost S) : IdealController × Err :=
  idealUpdate hostIdealConfig (idealDew lut) h.ctrl (portReading (read h.sensor).1)

/-- One sample at `ms`, and its two lines. -/
def idealHostStep (h : IdealHost S) (ms : Nat) : IdealHost S × List IdealLine :=
  let u := idealHostUpdate lut read h
  let counts := h.counts.record h.ctrl.mode u.1.mode u.2
  (⟨(read h.sensor).2, u.1, counts⟩,
    [.sample ms (idealReport u.1 u.2), .counts ms ms counts u.1.mode])

def idealHostStart (sensor : S) : IdealHost S :=
  ⟨sensor, idealStart hostIdealConfig .starting, ⟨0, 0, 0, 0⟩⟩

/-- The times of the samples in the first `n` ticks: the first tick, and every second. -/
def sampleTimes (n : Nat) : List Nat :=
  ((List.range' 1 n).filter fun k => k = 1 ∨ k % 100 = 0).map (10 * ·)

/-- The log of a run of `n` ticks. -/
def idealHostLog (sensor : S) (n : Nat) : List IdealLine :=
  let h := after (idealHostStep lut read) (idealHostStart sensor) (sampleTimes n)
  .boot :: answers (idealHostStep lut read) (idealHostStart sensor) (sampleTimes n) ++
    [.done (10 * n) (10 * n) h.counts]

end IdealHost

/-- A line with times and counters as `uint32_t` shows them. -/
def IdealLine.wrapped : IdealLine → IdealLine
  | .boot => .boot
  | .sample ms report => .sample (ms % 4294967296) report
  | .counts ms uptime n mode => .counts (ms % 4294967296) (uptime % 4294967296) n.wrapped mode
  | .done ms uptime n => .done (ms % 4294967296) (uptime % 4294967296) n.wrapped

def CountsLine.ideal (l : CountsLine) : IdealCounts :=
  ⟨l.samples.toNat, l.faultEvents.toNat, l.sensorErrors.toNat, l.warmups.toNat⟩

/-- What a record of the log says, in unbounded numbers. -/
def HostRecord.ideal : HostRecord → IdealLine
  | .boot => .boot
  | .control l =>
      .sample l.nowMs.toNat
        ⟨l.err, idealMode l.state, l.relayOn, l.tempCd.toInt, l.rhCp.toNat, l.dewCd.toInt⟩
  | .diag l state => .counts l.nowMs.toNat l.uptimeMs.toNat l.ideal (idealMode state)
  | .done l => .done l.nowMs.toNat l.uptimeMs.toNat l.ideal

end ClimateNode.Application
