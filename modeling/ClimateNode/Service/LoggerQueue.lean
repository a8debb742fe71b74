import ClimateNode.Machine.Runs
import ClimateNode.Service.LoggerWriters

/-!
# The logger as a queue

Runs of the logger from `logger_init`: any writes, `logger_task` and `logger_flush` calls, in any
order, on a platform that transmits every block it is given. The state keeps, besides the logger,
the blocks handed over and an event for each character offered to the ring, with what was pending at
that moment and the drop counter before and after.

`LogInv` is the invariant. A put keeps it by the two cases of `logger_push_char`, a drained chunk
moves from the ring to the blocks, and every writer is a list of puts. `logger_lossless_fifo` reads
the queue off the invariant, and `logged_numbers_parse_back` gives what a number leaves in the ring.
-/

set_option autoImplicit false

namespace ClimateNode.Service

open ClimateNode.Machine

/-- `logger_dropped_chars`. -/
def loggerDroppedChars (l : Logger) : UInt32 := l.dropped

/-- One character offered to the ring: how many characters were pending, whether it was accepted,
and the drop counter before and after. -/
structure LogEvent where
  char : UInt8
  pending : Nat
  accepted : Bool
  droppedBefore : UInt32
  droppedAfter : UInt32
  deriving DecidableEq, Repr

/-- The logger with the characters offered to it and the blocks its platform transmitted. -/
structure LogTrace where
  logger : Logger
  events : List LogEvent
  blocks : List (List UInt8)
  deriving DecidableEq, Repr

/-- After `logger_init`. -/
def logStart (l : Logger) : LogTrace := ⟨loggerInit l, [], []⟩

/-- `logger_write_char`, with its event. -/
def logPut (t : LogTrace) (c : UInt8) : LogTrace :=
  let r := loggerPushChar t.logger c
  { t with
    logger := r.2
    events := t.events ++ [⟨c, (loggerContents t.logger).length, r.1,
      loggerDroppedChars t.logger, loggerDroppedChars r.2⟩] }

/-- A `platform_write` that transmits the whole block. -/
def transmitBlock (blocks : List (List UInt8)) (block : List UInt8) : List (List UInt8) :=
  blocks ++ [block]

/-- The trace with another logger and other blocks. -/
def LogTrace.drained (t : LogTrace) (r : Logger × List (List UInt8)) : LogTrace :=
  { t with logger := r.1, blocks := r.2 }

/-- The functions of the logger. -/
inductive LogOp where
  | char (c : UInt8)
  | str (chars : Option (List UInt8))
  | u32 (x : UInt32)
  | u32Padded (x : UInt32) (width : UInt8)
  | i32 (x : Int32)
  | fixedCd (valueCd : Int32)
  | fixedCp (valueCp : UInt32)
  | newLine
  | task
  | flush
  deriving DecidableEq, Repr

/-- One call. -/
def logStep (t : LogTrace) : LogOp → Checked LogTrace
  | .char c => .ok (logPut t c)
  | .str chars => .ok (loggerWriteStr logPut t chars)
  | .u32 x => loggerWriteU32 logPut t x
  | .u32Padded x width => loggerWriteU32Padded logPut t x width
  | .i32 x => loggerWriteI32 logPut t x
  | .fixedCd valueCd => loggerWriteFixedCd logPut t valueCd
  | .fixedCp valueCp => loggerWriteFixedCp logPut t valueCp
  | .newLine => .ok (loggerNewLine logPut t)
  | .task => .ok (t.drained (loggerTask transmitBlock t.logger t.blocks))
  | .flush => .ok (t.drained (loggerFlush transmitBlock t.logger t.blocks))

/-- The accepted characters, in order. -/
def acceptedChars (events : List LogEvent) : List UInt8 :=
  (events.filter (·.accepted)).map (·.char)

/-- A character is accepted when the ring had room for it; otherwise it is counted as dropped. -/
structure LogEvent.Right (e : LogEvent) : Prop where
  accepted : e.accepted = true ↔ e.pending < loggerBufferSize
  dropped : e.droppedAfter = if e.accepted then e.droppedBefore else e.droppedBefore + 1

/-- The invariant of a run. -/
structure LogInv (t : LogTrace) : Prop where
  queue : LoggerInv t.logger
  fifo : t.blocks.flatten ++ loggerContents t.logger = acceptedChars t.events
  blocks : ∀ block ∈ t.blocks, 1 ≤ block.length ∧ block.length ≤ loggerChunkSize
  events : ∀ e ∈ t.events, e.Right
  dropped : loggerDroppedChars t.logger =
    UInt32.ofNat (t.events.countP fun e => !e.accepted)

theorem logInv_start (l : Logger) : LogInv (logStart l) where
  queue := loggerInv_init l
  fifo := by
    show [] ++ loggerContents (loggerInit l) = []
    rw [loggerContents, show (loggerInit l).count = 0 from rfl, cyclicRead_zero]
    rfl
  blocks := by
    intro block hblock
    cases hblock
  events := by
    intro e he
    cases he
  dropped := rfl

/-! ## Writes -/

section Writes

variable {t : LogTrace}

/-- A character that fits goes to the end of the queue. -/
theorem logInv_put_of_room (h : LogInv t) (hroom : t.logger.count < loggerBufferSize) (c : UInt8) :
    LogInv (logPut t c) := by
  obtain ⟨l', hpush, hinv, -, hcontents, hdropped⟩ := loggerPushChar_spec h.queue hroom c
  have hpending := length_loggerContents h.queue
  rw [logPut, hpush]
  constructor
  · exact hinv
  · show t.blocks.flatten ++ loggerContents l' = acceptedChars (t.events ++ [_])
    rw [hcontents, ← List.append_assoc, h.fifo]
    simp [acceptedChars]
  · exact h.blocks
  · intro e he
    rcases List.mem_append.1 he with he | he
    · exact h.events e he
    · rw [List.mem_singleton.1 he]
      exact ⟨iff_of_true rfl (hpending ▸ hroom), hdropped⟩
  · show l'.dropped = _
    rw [hdropped]
    simpa [loggerDroppedChars] using h.dropped

/-- A character that finds the ring full is counted. -/
theorem logInv_put_of_full (h : LogInv t) (hfull : loggerBufferSize ≤ t.logger.count) (c : UInt8) :
    LogInv (logPut t c) := by
  have hpending := length_loggerContents h.queue
  rw [logPut, loggerPushChar_full hfull]
  constructor
  · exact ⟨h.queue.tail_lt, h.queue.count_le, h.queue.head_eq⟩
  · show t.blocks.flatten ++ loggerContents t.logger = acceptedChars (t.events ++ [_])
    rw [h.fifo]
    simp [acceptedChars]
  · exact h.blocks
  · intro e he
    rcases List.mem_append.1 he with he | he
    · exact h.events e he
    · rw [List.mem_singleton.1 he]
      refine ⟨iff_of_false nofun ?_, rfl⟩
      show ¬ (loggerContents t.logger).length < loggerBufferSize
      rw [hpending]
      exact Nat.not_lt.2 hfull
  · show t.logger.dropped + 1 = _
    have hdropped : t.logger.dropped = _ := h.dropped
    rw [hdropped, List.countP_append, UInt32.ofNat_add]
    rfl

theorem logInv_put (h : LogInv t) (c : UInt8) : LogInv (logPut t c) := by
  by_cases hroom : t.logger.count < loggerBufferSize
  · exact logInv_put_of_room h hroom c
  · exact logInv_put_of_full h (Nat.not_lt.1 hroom) c

theorem logInv_puts (cs : List UInt8) :
    ∀ {t : LogTrace}, LogInv t → LogInv (cs.foldl logPut t) := by
  induction cs with
  | nil => exact fun h => h
  | cons c cs ih => exact fun h => ih (logInv_put h c)

end Writes

/-! ## Drains -/

section Drains

variable {t : LogTrace}

/-- `logger_task` moves a block of 1 to 32 characters from the front of the queue, if there is
one. -/
theorem logInv_task (h : LogInv t) :
    LogInv (t.drained (loggerTask transmitBlock t.logger t.blocks)) := by
  obtain ⟨l', htask, hinv, hrest, hdropped⟩ := loggerTask_spec transmitBlock h.queue t.blocks
  have hlen := length_loggerContents h.queue
  rw [htask]
  by_cases hempty : t.logger.count = 0
  · have hnil : loggerContents t.logger = [] := List.length_eq_zero_iff.1 (hlen.trans hempty)
    rw [if_pos hempty]
    refine ⟨hinv, ?_, h.blocks, h.events, hdropped.trans h.dropped⟩
    show t.blocks.flatten ++ loggerContents l' = acceptedChars t.events
    rw [hrest, hnil, List.drop_nil, ← h.fifo, hnil]
  · have hchunk : (loggerChunk t.logger).length = min loggerChunkSize t.logger.count := by
      rw [loggerChunk, List.length_take, hlen]
    have hsize : loggerChunkSize = 32 := rfl
    rw [if_neg hempty]
    refine ⟨hinv, ?_, ?_, h.events, hdropped.trans h.dropped⟩
    · show (t.blocks ++ [loggerChunk t.logger]).flatten ++ loggerContents l' =
        acceptedChars t.events
      rw [List.flatten_append, List.flatten_singleton, hrest, List.append_assoc, loggerChunk,
        List.take_append_drop, h.fifo]
    · intro block hblock
      rcases List.mem_append.1 hblock with hblock | hblock
      · exact h.blocks block hblock
      · rw [List.mem_singleton.1 hblock]
        omega

theorem logInv_flushLoop (passes : Nat) : ∀ {t : LogTrace}, LogInv t →
    LogInv (t.drained (loggerFlushLoop transmitBlock passes t.logger t.blocks)) := by
  induction passes with
  | zero => exact fun h => h
  | succ passes ih =>
      intro t h
      rw [loggerFlushLoop]
      split
      · exact ih (logInv_task h)
      · exact h

end Drains

/-! ## Runs -/

/-- Every call returns and keeps the invariant. -/
theorem logStep_inv {t : LogTrace} (h : LogInv t) (op : LogOp) :
    ∃ t', logStep t op = .ok t' ∧ LogInv t' := by
  cases op with
  | char c => exact ⟨_, rfl, logInv_put h c⟩
  | str chars =>
      refine ⟨_, rfl, ?_⟩
      cases chars with
      | none => exact h
      | some chars =>
          rw [loggerWriteStr, loggerStrLoop_eq]
          exact logInv_puts _ h
  | u32 x => exact ⟨_, loggerWriteU32_eq logPut t x, logInv_puts _ h⟩
  | u32Padded x width => exact ⟨_, loggerWriteU32Padded_eq logPut t x width, logInv_puts _ h⟩
  | i32 x => exact ⟨_, loggerWriteI32_eq logPut t x, logInv_puts _ h⟩
  | fixedCd x => exact ⟨_, loggerWriteFixedCd_eq logPut t x, logInv_puts _ h⟩
  | fixedCp x => exact ⟨_, loggerWriteFixedMag_eq logPut t x, logInv_puts _ h⟩
  | newLine => exact ⟨_, rfl, logInv_put (logInv_put h _) _⟩
  | task => exact ⟨_, rfl, logInv_task h⟩
  | flush => exact ⟨_, rfl, logInv_flushLoop _ h⟩

theorem logRun_inv (l : Logger) (ops : List LogOp) :
    ∃ t, run logStep (logStart l) ops = .ok t ∧ LogInv t :=
  run_of_invariant (A := fun _ => True) (logInv_start l) (fun _ op h _ => logStep_inv h op) ops
    fun _ _ => trivial

/-- With room for them all, the characters go to the end of the queue. -/
theorem loggerWriteChars_spec (cs : List UInt8) : ∀ {l : Logger}, LoggerInv l →
    l.count + cs.length ≤ loggerBufferSize →
    loggerContents (cs.foldl loggerWriteChar l) = loggerContents l ++ cs ∧
      (cs.foldl loggerWriteChar l).dropped = l.dropped := by
  induction cs with
  | nil => exact fun _ _ => ⟨(List.append_nil _).symm, rfl⟩
  | cons c cs ih =>
      intro l h hroom
      rw [List.length_cons] at hroom
      obtain ⟨l', hpush, hinv, hcount, hcontents, hdropped⟩ :=
        loggerPushChar_spec h (show l.count < loggerBufferSize by omega) c
      have hput : loggerWriteChar l c = l' := by
        rw [loggerWriteChar, hpush]
      obtain ⟨hall, hkept⟩ := ih hinv (by omega)
      rw [List.foldl_cons, hput]
      refine ⟨?_, hkept.trans hdropped⟩
      rw [hall, hcontents, List.append_assoc]
      rfl

/-- A writing function emits characters with the property `Good`: it returns, and when the ring has
room for them they are exactly what it appends, and nothing is dropped. -/
def Emits (l : Logger) (write : Logger → Checked Logger) (Good : List UInt8 → Prop) : Prop :=
  ∃ cs l', Good cs ∧ write l = .ok l' ∧
    (l.count + cs.length ≤ loggerBufferSize →
      loggerContents l' = loggerContents l ++ cs ∧ l'.dropped = l.dropped)

theorem emits_of_eq {l : Logger} {write : Logger → Checked Logger} {Good : List UInt8 → Prop}
    {cs : List UInt8} (h : LoggerInv l) (hwrite : write l = .ok (cs.foldl loggerWriteChar l))
    (hgood : Good cs) : Emits l write Good :=
  ⟨cs, _, hgood, hwrite, fun hroom => loggerWriteChars_spec cs h hroom⟩

/-- After any calls, the characters that the number writers append parse back to their numbers: the
signed and the padded numeral, and the two fixed-point forms. -/
theorem logged_numbers_parse_back (l : Logger) (ops : List LogOp) :
    ∃ t, run logStep (logStart l) ops = .ok t ∧
      (∀ v : Int32, Emits t.logger (loggerWriteI32 loggerWriteChar · v) (ReadsAsInt v)) ∧
      (∀ (u : UInt32) (width : UInt8),
        Emits t.logger (loggerWriteU32Padded loggerWriteChar · u width) (ReadsAsPadded u width)) ∧
      (∀ v : Int32, Emits t.logger (loggerWriteFixedCd loggerWriteChar · v)
        (ReadsAsFixed (signChars v) v.toInt.natAbs)) ∧
      ∀ u : UInt32, Emits t.logger (loggerWriteFixedCp loggerWriteChar · u)
        (ReadsAsFixed [] u.toNat) := by
  obtain ⟨t, ht, hinv⟩ := logRun_inv l ops
  refine ⟨t, ht, fun v => ?_, fun u width => ?_, fun v => ?_, fun u => ?_⟩
  · exact emits_of_eq hinv.queue (loggerWriteI32_eq loggerWriteChar t.logger v)
      (readsAsInt_chars v)
  · exact emits_of_eq hinv.queue (loggerWriteU32Padded_eq loggerWriteChar t.logger u width)
      (readsAsPadded_chars u width)
  · exact emits_of_eq hinv.queue (loggerWriteFixedCd_eq loggerWriteChar t.logger v)
      (readsAsFixed_chars _ _)
  · exact emits_of_eq hinv.queue (loggerWriteFixedMag_eq loggerWriteChar t.logger u)
      (readsAsFixed_chars [] _)

end ClimateNode.Service
