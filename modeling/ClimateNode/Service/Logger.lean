import ClimateNode.Machine.CyclicBuffer
import Mathlib.Data.List.GetD

/-!
# The logger

`service/logger.c`: a queue of characters in a ring, filled by the writing functions, emptied in
chunks by `logger_task`, and a counter of the characters that found the ring full. The platform's
`platform_write` is a parameter. The level is left out: no function here reads it.
-/

set_option autoImplicit false

namespace ClimateNode.Service

open ClimateNode.Machine

universe u

/-- `LOGGER_BUFFER_SIZE`. -/
def loggerBufferSize : Nat := 256

/-- `LOGGER_CHUNK_SIZE`. -/
def loggerChunkSize : Nat := 32

/-- The ring `g_buf` with its indices, and `g_dropped`. -/
structure Logger where
  buf : Vector UInt8 loggerBufferSize
  head : Nat
  tail : Nat
  count : Nat
  dropped : UInt32
  deriving DecidableEq, Repr

/-- An index of the ring after the one just used. -/
def loggerNext (i : Nat) : Nat := if i + 1 ≥ loggerBufferSize then 0 else i + 1

/-- `logger_push_char`: whether the character was accepted. -/
def loggerPushChar (l : Logger) (c : UInt8) : Bool × Logger :=
  if l.count ≥ loggerBufferSize then (false, { l with dropped := l.dropped + 1 })
  else
    (true, { l with
      buf := l.buf.setIfInBounds l.head c
      head := loggerNext l.head
      count := l.count + 1 })

/-- `logger_pop_char`: the character, or `none` for `false`. -/
def loggerPopChar (l : Logger) : Option UInt8 × Logger :=
  if l.count = 0 then (none, l)
  else
    (some (l.buf.toList.getD l.tail 0), { l with tail := loggerNext l.tail, count := l.count - 1 })

/-- `logger_init`. -/
def loggerInit (l : Logger) : Logger := { l with head := 0, tail := 0, count := 0, dropped := 0 }

/-- `logger_write_char`. -/
def loggerWriteChar (l : Logger) (c : UInt8) : Logger := (loggerPushChar l c).2

/-- The loop of `logger_task`, with room for `n` more characters in the chunk. -/
def loggerFillChunk : Nat → Logger → List UInt8 × Logger
  | 0, l => ([], l)
  | n + 1, l =>
      match loggerPopChar l with
      | (none, l) => ([], l)
      | (some c, l) =>
          let r := loggerFillChunk n l
          (c :: r.1, r.2)

section Platform

variable {P : Type u} (platformWrite : P → List UInt8 → P)

/-- `logger_task` on a platform. -/
def loggerTask (l : Logger) (p : P) : Logger × P :=
  let r := loggerFillChunk loggerChunkSize l
  (r.2, if r.1.length > 0 then platformWrite p r.1 else p)

/-- The loop of `logger_flush`, for at most `n` passes. -/
def loggerFlushLoop : Nat → Logger → P → Logger × P
  | 0, l, p => (l, p)
  | n + 1, l, p =>
      if l.count > 0 then
        let r := loggerTask platformWrite l p
        loggerFlushLoop n r.1 r.2
      else (l, p)

/-- `logger_flush`: every pass takes at least one character, so there are no more passes than
characters (`count_loggerFlush`). -/
def loggerFlush (l : Logger) (p : P) : Logger × P := loggerFlushLoop platformWrite l.count l p

end Platform

/-! ## The queue -/

/-- The indices fit the ring. -/
structure LoggerInv (l : Logger) : Prop where
  tail_lt : l.tail < loggerBufferSize
  count_le : l.count ≤ loggerBufferSize
  head_eq : l.head = (l.tail + l.count) % loggerBufferSize

/-- The pending characters, oldest first. -/
def loggerContents (l : Logger) : List UInt8 := cyclicRead l.buf.toList l.tail l.count

theorem loggerNext_eq {i : Nat} (h : i < loggerBufferSize) :
    loggerNext i = (i + 1) % loggerBufferSize := by
  have hsize : loggerBufferSize = 256 := rfl
  rw [hsize] at h
  rw [loggerNext, hsize]
  split <;> omega

theorem loggerInv_init (l : Logger) : LoggerInv (loggerInit l) where
  tail_lt := Nat.succ_pos _
  count_le := Nat.zero_le _
  head_eq := rfl

section Queue

variable {l : Logger}

theorem length_loggerContents (h : LoggerInv l) : (loggerContents l).length = l.count :=
  length_cyclicRead (by rw [Vector.length_toList]; exact h.count_le)

/-- A character that fits is appended. -/
theorem loggerPushChar_spec (h : LoggerInv l) (hroom : l.count < loggerBufferSize) (c : UInt8) :
    ∃ l', loggerPushChar l c = (true, l') ∧ LoggerInv l' ∧ l'.count = l.count + 1 ∧
      loggerContents l' = loggerContents l ++ [c] ∧ l'.dropped = l.dropped := by
  have hhead : l.head < loggerBufferSize := by
    rw [h.head_eq]
    exact Nat.mod_lt _ (Nat.succ_pos _)
  refine ⟨_, if_neg (Nat.not_le.2 hroom), ⟨h.tail_lt, hroom, ?_⟩, rfl, ?_, rfl⟩
  · show loggerNext l.head = (l.tail + (l.count + 1)) % loggerBufferSize
    rw [loggerNext_eq hhead, h.head_eq, Nat.mod_add_mod]
    rfl
  · have hlen : l.count < l.buf.toList.length := by
      rw [Vector.length_toList]
      exact hroom
    have hpush := cyclicRead_push l.tail hlen c
    rw [Vector.length_toList, ← h.head_eq] at hpush
    simpa [loggerContents] using hpush

/-- A character that does not fit is counted. -/
theorem loggerPushChar_full (hfull : loggerBufferSize ≤ l.count) (c : UInt8) :
    loggerPushChar l c = (false, { l with dropped := l.dropped + 1 }) := if_pos hfull

/-- Popping takes the oldest character. -/
theorem loggerPopChar_spec (h : LoggerInv l) (hpos : 0 < l.count) :
    ∃ c l', loggerPopChar l = (some c, l') ∧ LoggerInv l' ∧ l'.count + 1 = l.count ∧
      loggerContents l = c :: loggerContents l' ∧ l'.dropped = l.dropped := by
  have htail : l.tail < l.buf.toList.length := by
    rw [Vector.length_toList]
    exact h.tail_lt
  have hle := h.count_le
  refine ⟨_, _, if_neg (Nat.ne_of_gt hpos), ⟨?_, ?_, ?_⟩, ?_, ?_, rfl⟩
  · show loggerNext l.tail < loggerBufferSize
    rw [loggerNext_eq h.tail_lt]
    exact Nat.mod_lt _ (Nat.succ_pos _)
  · show l.count - 1 ≤ loggerBufferSize
    omega
  · show l.head = (loggerNext l.tail + (l.count - 1)) % loggerBufferSize
    rw [loggerNext_eq h.tail_lt, Nat.mod_add_mod, h.head_eq]
    congr 1
    omega
  · show l.count - 1 + 1 = l.count
    omega
  · have hlen : l.count - 1 < l.buf.toList.length := by
      rw [Vector.length_toList]
      omega
    have hpop := cyclicRead_pop hlen htail
    rw [Nat.sub_add_cancel hpos, Vector.length_toList, ← loggerNext_eq h.tail_lt] at hpop
    rw [loggerContents, hpop, List.getD_eq_getElem _ _ htail]
    rfl

/-- An empty ring has nothing to pop. -/
theorem loggerPopChar_empty (h : l.count = 0) : loggerPopChar l = (none, l) := if_pos h

/-- A chunk is the oldest characters, as many as there is room for. -/
theorem loggerFillChunk_spec (n : Nat) : ∀ {l : Logger}, LoggerInv l →
    (loggerFillChunk n l).1 = (loggerContents l).take n ∧
      LoggerInv (loggerFillChunk n l).2 ∧
      loggerContents (loggerFillChunk n l).2 = (loggerContents l).drop n ∧
      (loggerFillChunk n l).2.dropped = l.dropped := by
  induction n with
  | zero => exact fun h => ⟨rfl, h, rfl, rfl⟩
  | succ n ih =>
      intro l h
      by_cases hempty : l.count = 0
      · have hnil : loggerContents l = [] := by
          rw [loggerContents, hempty, cyclicRead_zero]
        rw [loggerFillChunk, loggerPopChar_empty hempty]
        refine ⟨by rw [hnil]; rfl, h, ?_, rfl⟩
        rw [hnil, List.drop_nil]
      · obtain ⟨c, l', hpop, hinv, -, hcontents, hdropped⟩ :=
          loggerPopChar_spec h (Nat.pos_of_ne_zero hempty)
        obtain ⟨hchunk, hinv', hrest, hdropped'⟩ := ih hinv
        rw [loggerFillChunk, hpop, hcontents]
        refine ⟨?_, hinv', ?_, hdropped'.trans hdropped⟩
        · show c :: (loggerFillChunk n l').1 = _
          rw [hchunk, List.take_succ_cons]
        · show loggerContents (loggerFillChunk n l').2 = _
          rw [hrest, List.drop_succ_cons]

/-- The characters `logger_task` hands to the platform. -/
def loggerChunk (l : Logger) : List UInt8 := (loggerContents l).take loggerChunkSize

section Task

variable {P : Type u} (platformWrite : P → List UInt8 → P)

/-- `logger_task` hands over the oldest characters, if there are any, and keeps the others. -/
theorem loggerTask_spec (h : LoggerInv l) (p : P) :
    ∃ l', loggerTask platformWrite l p =
        (l', if l.count = 0 then p else platformWrite p (loggerChunk l)) ∧
      LoggerInv l' ∧ loggerContents l' = (loggerContents l).drop loggerChunkSize ∧
      l'.dropped = l.dropped := by
  obtain ⟨hchunk, hinv, hrest, hdropped⟩ := loggerFillChunk_spec loggerChunkSize h
  refine ⟨_, ?_, hinv, hrest, hdropped⟩
  have hlen := length_loggerContents h
  by_cases hempty : l.count = 0
  · have hnil : loggerContents l = [] := List.length_eq_zero_iff.1 (hlen.trans hempty)
    rw [hnil, List.take_nil] at hchunk
    simp only [loggerTask, hchunk, hempty, List.length_nil, Nat.lt_irrefl, gt_iff_lt, if_false,
      if_true]
  · have hpos : 0 < (loggerChunk l).length := by
      rw [loggerChunk, List.length_take, hlen]
      exact Nat.lt_min.2 ⟨by decide, Nat.pos_of_ne_zero hempty⟩
    have hsome : (loggerFillChunk loggerChunkSize l).1 = loggerChunk l := hchunk
    simp only [loggerTask, hsome, if_pos hpos, if_neg hempty]

/-- With nothing pending the loop does nothing. -/
theorem loggerFlushLoop_of_empty (n : Nat) (p : P) (h : l.count = 0) :
    loggerFlushLoop platformWrite n l p = (l, p) := by
  cases n with
  | zero => rfl
  | succ n => rw [loggerFlushLoop, if_neg (Nat.not_lt.2 (Nat.le_of_eq h))]

theorem count_loggerFlushLoop (n : Nat) : ∀ {l : Logger} (p : P), LoggerInv l → l.count ≤ n →
    (loggerFlushLoop platformWrite n l p).1.count = 0 := by
  induction n with
  | zero => exact fun _ _ hle => Nat.le_zero.1 hle
  | succ n ih =>
      intro l p h hle
      by_cases hpos : l.count > 0
      · rw [loggerFlushLoop, if_pos hpos]
        obtain ⟨l', heq, hinv, hrest, -⟩ := loggerTask_spec platformWrite h p
        have hcount := length_loggerContents hinv
        rw [hrest, List.length_drop, length_loggerContents h] at hcount
        have hchunk : 0 < loggerChunkSize := by decide
        rw [heq]
        exact ih _ hinv (show l'.count ≤ n by omega)
      · rw [loggerFlushLoop, if_neg hpos]
        exact Nat.eq_zero_of_not_pos hpos

/-- `logger_flush` returns, with nothing pending. -/
theorem count_loggerFlush (h : LoggerInv l) (p : P) :
    (loggerFlush platformWrite l p).1.count = 0 :=
  count_loggerFlushLoop platformWrite l.count p h (Nat.le_refl _)

end Task

end Queue

end ClimateNode.Service
