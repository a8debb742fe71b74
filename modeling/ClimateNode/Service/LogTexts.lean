import ClimateNode.Core.Types
import ClimateNode.Service.LoggerWriters
import Mathlib.Data.List.TakeWhile

/-!
# Log levels and texts

`logger_level_enabled`, the names that `core/errors.c` gives to the error codes, and
`log_timestamp`, which both programs define in the same way. As in `LoggerWriters`, the texts go to
any state through a function `put`.
-/

set_option autoImplicit false

namespace ClimateNode.Service

open ClimateNode.Core ClimateNode.Machine

/-- `log_level_t`. -/
inductive LogLevel where
  | error
  | warn
  | info
  | debug
  deriving DecidableEq, Repr

/-- The value of `log_level_t`. -/
def LogLevel.code : LogLevel → Nat
  | .error => 0
  | .warn => 1
  | .info => 2
  | .debug => 3

/-- `logger_level_enabled` while `g_level` is `current`. -/
def loggerLevelEnabled (current level : LogLevel) : Bool := level.code ≤ current.code

/-- The characters of a string literal. -/
def cChars (text : String) : List UInt8 := text.toList.map fun c => c.toNat.toUInt8

/-- `err_str`. -/
def errStr : Err → List UInt8
  | .ok => cChars "OK"
  | .invalidArg => cChars "INVALID_ARG"
  | .outOfRange => cChars "OUT_OF_RANGE"
  | .notReady => cChars "NOT_READY"
  | .warmup => cChars "WARMUP"
  | .sensor => cChars "SENSOR"
  | .math => cChars "MATH"
  | .state => cChars "STATE"
  | .comm => cChars "COMM"
  | .storage => cChars "STORAGE"
  | .config => cChars "CONFIG"
  | .hw => cChars "HW"
  | .notFound => cChars "NOT_FOUND"

section Texts

variable {σ : Type} (put : σ → UInt8 → σ)

/-- `logger_write_str` of a string literal. -/
def loggerWriteText (s : σ) (chars : List UInt8) : σ := loggerWriteStr put s (some chars)

/-- `log_timestamp`. -/
def logTimestamp (s : σ) (ms : UInt32) : Checked σ := do
  let s := put s 0x5B
  let s ← loggerWriteU32Padded put s ms 6
  return loggerWriteText put s (cChars "] ")

/-- The characters of `log_timestamp`. -/
def timestampChars (ms : UInt32) : List UInt8 := 0x5B :: (paddedChars ms 6 ++ cChars "] ")

/-- A text without a zero is written whole. -/
theorem loggerWriteText_eq (s : σ) {chars : List UInt8} (h : ∀ c ∈ chars, c ≠ 0) :
    loggerWriteText put s chars = chars.foldl put s := by
  have hwhole : chars.takeWhile (· ≠ 0) = chars :=
    List.takeWhile_eq_self_iff.2 fun c hc => decide_eq_true (h c hc)
  show loggerStrLoop put s chars = _
  rw [loggerStrLoop_eq, hwhole]

/-- A literal is checked for zeros by evaluation. -/
theorem cChars_ne_zero (text : String)
    (h : (cChars text).all (fun c => decide (c ≠ 0)) = true) : ∀ c ∈ cChars text, c ≠ 0 :=
  fun c hc => of_decide_eq_true (List.all_eq_true.1 h c hc)

theorem logTimestamp_eq (s : σ) (ms : UInt32) :
    logTimestamp put s ms = .ok ((timestampChars ms).foldl put s) := by
  have htext := cChars_ne_zero "] " (by decide)
  rw [logTimestamp, loggerWriteU32Padded_eq, checked_ok_bind, loggerWriteText_eq put _ htext]
  simp only [timestampChars, List.foldl_cons, List.foldl_append]
  rfl

end Texts

/-! ## The names of the error codes -/

/-- Every character of a name is an upper-case letter or an underscore. -/
def IsNameChar (c : UInt8) : Prop := (0x41 ≤ c ∧ c ≤ 0x5A) ∨ c = 0x5F

instance (c : UInt8) : Decidable (IsNameChar c) := inferInstanceAs (Decidable (_ ∨ _))

theorem isNameChar_errStr (e : Err) : ∀ c ∈ errStr e, IsNameChar c := by
  intro c hc
  have hall : (errStr e).all (fun c => decide (IsNameChar c)) = true := by
    cases e <;> decide
  exact of_decide_eq_true (List.all_eq_true.1 hall c hc)

/-- A name is neither a zero nor a blank. -/
theorem IsNameChar.ne {c : UInt8} (h : IsNameChar c) : c ≠ 0 ∧ c ≠ 0x20 := by
  rcases h with ⟨hlo, -⟩ | rfl
  · constructor
    · rintro rfl
      exact absurd hlo (by decide)
    · rintro rfl
      exact absurd hlo (by decide)
  · exact ⟨by decide, by decide⟩

end ClimateNode.Service
