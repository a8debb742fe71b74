import ClimateNode.Core.Controller

/-!
# Diagnostics

`core/diagnostics.c`: counters of processed samples, of warm-up and sensor results, and of entries
into a fault state.
-/

set_option autoImplicit false

namespace ClimateNode.Core

/-- `diagnostics_t`. -/
structure Diagnostics where
  startedMs : UInt32
  lastSampleMs : UInt32
  sampleCount : UInt32
  faultEvents : UInt32
  sensorErrorCount : UInt32
  warmupCount : UInt32
  lastError : Err
  lastState : CtrlState
  relayOn : Bool
  initialized : Bool
  deriving DecidableEq, Repr

/-- `diag_is_fault_state`. -/
def diagIsFaultState (state : CtrlState) : Bool :=
  state = .sensorFault || state = .mathFault || state = .safe

/-- `diag_init`. -/
def diagInit (nowMs : UInt32) : Diagnostics where
  startedMs := nowMs
  lastSampleMs := nowMs
  sampleCount := 0
  faultEvents := 0
  sensorErrorCount := 0
  warmupCount := 0
  lastError := .notReady
  lastState := .init
  relayOn := false
  initialized := false

/-- `diag_record`. -/
def diagRecord (d : Diagnostics) (nowMs : UInt32) (state : CtrlState) (err : Err)
    (relayOn processed : Bool) : Diagnostics :=
  let prevState := d.lastState
  let prevInitialized := d.initialized
  let d : Diagnostics := { d with lastError := err, relayOn := relayOn }
  if !processed then d
  else
    let d : Diagnostics := { d with sampleCount := d.sampleCount + 1, lastSampleMs := nowMs }
    let d : Diagnostics :=
      if err = .warmup then { d with warmupCount := d.warmupCount + 1 } else d
    let d : Diagnostics :=
      if err = .sensor then { d with sensorErrorCount := d.sensorErrorCount + 1 } else d
    let isFault := diagIsFaultState state
    let wasFault := prevInitialized && diagIsFaultState prevState
    let d : Diagnostics :=
      if isFault && !wasFault then { d with faultEvents := d.faultEvents + 1 } else d
    { d with lastState := state, initialized := true }

/-- `diag_uptime_ms`. -/
def diagUptimeMs (d : Diagnostics) (nowMs : UInt32) : UInt32 :=
  if nowMs < d.startedMs then 0 else nowMs - d.startedMs

end ClimateNode.Core
