import Mathlib.Data.List.Induction
import ClimateNode.Core.Diagnostics

/-!
# Counting fault episodes

The history of a diagnostics record is the list of calls of `diag_record` since `diag_init`.
`entersFault` says of a call in that history, by its index, that it is processed, is in a fault
state, and that the processed call before it is missing or outside the fault states. `Tally` relates
the counters to the history. One call keeps it, by a case split on whether the call is processed,
and the induction over the calls gives the counts. Counters are `uint32_t`, so the counts are taken
modulo `2 ^ 32`.
-/

set_option autoImplicit false

namespace ClimateNode.Core

/-- The arguments of one call of `diag_record`. -/
structure DiagCall where
  nowMs : UInt32
  state : CtrlState
  err : Err
  relayOn : Bool
  processed : Bool
  deriving DecidableEq, Repr

/-- One call of `diag_record`. -/
def recordCall (d : Diagnostics) (call : DiagCall) : Diagnostics :=
  diagRecord d call.nowMs call.state call.err call.relayOn call.processed

/-- The record after `calls`, in order. -/
def recordCalls (d : Diagnostics) (calls : List DiagCall) : Diagnostics := calls.foldl recordCall d

/-- The latest processed call. -/
def lastProcessed (calls : List DiagCall) : Option DiagCall :=
  (calls.filter (·.processed)).getLast?

/-- A processed call in a fault state. -/
def DiagCall.isFault (call : DiagCall) : Bool := call.processed && diagIsFaultState call.state

/-- The call at index `i` is a processed record in a fault state, and the processed record before
it is missing or is not in a fault state. -/
def entersFault (calls : List DiagCall) (i : Nat) : Bool :=
  calls[i]?.any fun call =>
    call.isFault && !(lastProcessed (calls.take i)).any fun prev => diagIsFaultState prev.state

/-- The number of calls that enter a fault state. -/
def faultEntries (calls : List DiagCall) : Nat :=
  (List.range calls.length).countP (entersFault calls)

/-! ## The history with one more call -/

section Snoc

variable (calls : List DiagCall) (call : DiagCall)

theorem recordCalls_append_one (d : Diagnostics) :
    recordCalls d (calls ++ [call]) = recordCall (recordCalls d calls) call := by
  rw [recordCalls, List.foldl_append]
  rfl

theorem lastProcessed_append_one :
    lastProcessed (calls ++ [call]) =
      if call.processed then some call else lastProcessed calls := by
  rw [lastProcessed, List.filter_append]
  cases hp : call.processed with
  | false => simp [hp, lastProcessed]
  | true => simp [hp]

/-- A later call does not change which of the earlier ones enter a fault state. -/
theorem entersFault_append_of_lt {i : Nat} (hi : i < calls.length) :
    entersFault (calls ++ [call]) i = entersFault calls i := by
  rw [entersFault, entersFault, List.getElem?_append_left hi,
    List.take_append_of_le_length (Nat.le_of_lt hi)]

theorem entersFault_append_length :
    entersFault (calls ++ [call]) calls.length = (call.isFault &&
      !(lastProcessed calls).any fun prev => diagIsFaultState prev.state) := by
  rw [entersFault, List.getElem?_concat_length, List.take_left']
  · rfl
  · rfl

theorem faultEntries_append_one :
    faultEntries (calls ++ [call]) = faultEntries calls +
      if call.isFault && !(lastProcessed calls).any fun prev => diagIsFaultState prev.state
        then 1 else 0 := by
  have hearlier : (List.range calls.length).countP (entersFault (calls ++ [call])) =
      (List.range calls.length).countP (entersFault calls) := by
    apply List.countP_congr
    intro i hi
    rw [entersFault_append_of_lt calls call (List.mem_range.1 hi)]
  rw [faultEntries, List.length_append, List.length_singleton, List.range_succ,
    List.countP_append, hearlier, List.countP_singleton, entersFault_append_length]
  rfl

end Snoc

/-! ## What one call changes -/

/-- A call that is not processed changes the last error and the relay flag, nothing else. -/
theorem recordCall_unprocessed (d : Diagnostics) {call : DiagCall}
    (h : call.processed = false) :
    recordCall d call = { d with lastError := call.err, relayOn := call.relayOn } := by
  rw [recordCall, diagRecord, h]
  rfl

/-- A `uint32_t` counter with a condition under which it is increased. -/
def countIf (n : UInt32) (b : Bool) : UInt32 := if b then n + 1 else n

/-- A processed call, field by field. -/
theorem recordCall_processed (d : Diagnostics) {call : DiagCall} (h : call.processed = true) :
    recordCall d call =
      { startedMs := d.startedMs
        lastSampleMs := call.nowMs
        sampleCount := d.sampleCount + 1
        faultEvents := countIf d.faultEvents (diagIsFaultState call.state &&
          !(d.initialized && diagIsFaultState d.lastState))
        sensorErrorCount := countIf d.sensorErrorCount (decide (call.err = .sensor))
        warmupCount := countIf d.warmupCount (decide (call.err = .warmup))
        lastError := call.err
        lastState := call.state
        relayOn := call.relayOn
        initialized := true } := by
  simp only [recordCall, diagRecord, h, countIf, Bool.not_true, Bool.false_eq_true, if_false,
    decide_eq_true_eq]
  split
  all_goals
    split
    all_goals
      split
      all_goals rfl

theorem countIf_ofNat (n : Nat) (b : Bool) :
    countIf (UInt32.ofNat n) b = UInt32.ofNat (n + if b then 1 else 0) := by
  cases b with
  | false => rfl
  | true => exact (UInt32.ofNat_add n 1).symm

/-! ## The counters along a history -/

/-- The counters of `d` are those of the history `calls`. -/
structure Tally (calls : List DiagCall) (d : Diagnostics) : Prop where
  faultEvents : d.faultEvents = UInt32.ofNat (faultEntries calls)
  sampleCount : d.sampleCount = UInt32.ofNat (calls.countP (·.processed))
  warmupCount :
    d.warmupCount = UInt32.ofNat (calls.countP fun call => call.processed && call.err = .warmup)
  sensorErrorCount : d.sensorErrorCount =
    UInt32.ofNat (calls.countP fun call => call.processed && call.err = .sensor)
  wasFault : (d.initialized && diagIsFaultState d.lastState) =
    (lastProcessed calls).any fun prev => diagIsFaultState prev.state

theorem tally_init (nowMs : UInt32) : Tally [] (diagInit nowMs) := ⟨rfl, rfl, rfl, rfl, rfl⟩

section Step

variable {calls : List DiagCall} {d : Diagnostics} {call : DiagCall}

/-- No count over processed calls sees a call that is not processed. -/
theorem tally_unprocessed (h : Tally calls d) (hp : call.processed = false) :
    Tally (calls ++ [call]) (recordCall d call) := by
  rw [recordCall_unprocessed d hp]
  refine ⟨?_, ?_, ?_, ?_, ?_⟩
  · rw [faultEntries_append_one, DiagCall.isFault, hp]
    exact h.faultEvents
  · rw [List.countP_append, List.countP_singleton, hp]
    exact h.sampleCount
  · rw [List.countP_append, List.countP_singleton, hp]
    exact h.warmupCount
  · rw [List.countP_append, List.countP_singleton, hp]
    exact h.sensorErrorCount
  · rw [lastProcessed_append_one, hp]
    exact h.wasFault

/-- A processed call is counted once by every counter whose condition it meets. -/
theorem tally_processed (h : Tally calls d) (hp : call.processed = true) :
    Tally (calls ++ [call]) (recordCall d call) := by
  rw [recordCall_processed d hp]
  refine ⟨?_, ?_, ?_, ?_, ?_⟩
  · rw [faultEntries_append_one, DiagCall.isFault, hp, ← h.wasFault, ← countIf_ofNat,
      h.faultEvents, Bool.true_and]
  · rw [List.countP_append, List.countP_singleton, hp, ← countIf_ofNat, ← h.sampleCount]
    rfl
  · rw [List.countP_append, List.countP_singleton, hp, ← countIf_ofNat, ← h.warmupCount,
      Bool.true_and]
  · rw [List.countP_append, List.countP_singleton, hp, ← countIf_ofNat, ← h.sensorErrorCount,
      Bool.true_and]
  · rw [lastProcessed_append_one, hp]
    rfl

theorem tally_recordCall (h : Tally calls d) (call : DiagCall) :
    Tally (calls ++ [call]) (recordCall d call) := by
  cases hp : call.processed with
  | false => exact tally_unprocessed h hp
  | true => exact tally_processed h hp

end Step

theorem tally_recordCalls (nowMs : UInt32) (calls : List DiagCall) :
    Tally calls (recordCalls (diagInit nowMs) calls) := by
  induction calls using List.reverseRecOn with
  | nil => exact tally_init nowMs
  | append_singleton calls call ih =>
      rw [recordCalls_append_one]
      exact tally_recordCall ih call

/-- After any calls, `fault_events` is the number of processed records that enter a fault state,
the other counters are the numbers of processed records of their kind, and a record that is not
processed changes the last error and the relay flag only. -/
theorem diagnostics_count_fault_episodes (nowMs : UInt32) (calls : List DiagCall) :
    let d := recordCalls (diagInit nowMs) calls
    d.faultEvents = UInt32.ofNat (faultEntries calls) ∧
      d.sampleCount = UInt32.ofNat (calls.countP (·.processed)) ∧
      d.warmupCount =
        UInt32.ofNat (calls.countP fun call => call.processed && call.err = .warmup) ∧
      d.sensorErrorCount =
        UInt32.ofNat (calls.countP fun call => call.processed && call.err = .sensor) ∧
      ∀ call : DiagCall, call.processed = false →
        recordCall d call = { d with lastError := call.err, relayOn := call.relayOn } := by
  intro d
  have h : Tally calls d := tally_recordCalls nowMs calls
  exact ⟨h.faultEvents, h.sampleCount, h.warmupCount, h.sensorErrorCount,
    fun _ hp => recordCall_unprocessed d hp⟩

example : faultEntries
    [⟨0, .safe, .hw, false, true⟩, ⟨1, .run, .ok, true, false⟩, ⟨2, .sensorFault, .sensor, false,
      true⟩, ⟨3, .run, .ok, true, true⟩, ⟨4, .mathFault, .math, false, true⟩] = 2 := by decide

end ClimateNode.Core
