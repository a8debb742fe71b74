import ClimateNode.App.Replies
import ClimateNode.Platform.Uart
import ClimateNode.Service.Logger

/-!
# Two producers on one transmitter

The logger and the request handler share the transmit channel, which refuses a block while it is
busy; `platform_write` and the handler both drop the refusal. The state keeps, besides the logger
and the channel, what each producer has handed over so far and what the channel has taken of it.

`NothingLost` is the balance of both accounts. `nothing_lost_iff` says that it holds in every state
of a run exactly when the channel is idle at every hand-over of the run.
-/

set_option autoImplicit false

namespace ClimateNode.Application

open ClimateNode.Core ClimateNode.Service ClimateNode.Machine ClimateNode.Platforms

/-- The logger and the transmit channel, with the characters that entered the ring, the number that
did not, the responses built, and what the channel has taken of the two. -/
structure Sharing where
  logger : Logger
  tx : UartTx
  accepted : List UInt8
  rejected : Nat
  built : List (List UInt8)
  sentChars : List UInt8
  sentResponses : List (List UInt8)

/-- What happens at the UART. A request finds the node as the other tasks have left it. -/
inductive SharingOp (F : Type) where
  | write (c : UInt8)
  | loggerTask
  | flushPass
  | request (n : Node F) (nowMs : UInt32) (req : ModbusRequest)
  | txComplete

/-- `platform_write`: the result of the driver is not used. -/
def platformWrite (tx : UartTx) (data : List UInt8) : UartTx :=
  if data.length = 0 then tx else (uart1TxDmaAsync tx data).2

/-- The end of `handle_modbus_request`, which does not use the result either. -/
def sendResponse (tx : UartTx) (resp : List UInt8) : UartTx :=
  if resp.length > 0 then (uart1TxDmaAsync tx resp).2 else tx

/-- The blocks the channel has taken since. -/
def newlyTaken (tx tx' : UartTx) : List (List UInt8) := tx'.taken.drop tx.taken.length

/-- A call of `logger_task`. -/
def sharingLoggerTask (s : Sharing) : Sharing :=
  let r := loggerTask platformWrite s.logger s.tx
  { s with
    logger := r.1
    tx := r.2
    sentChars := s.sentChars ++ (newlyTaken s.tx r.2).flatten }

section Step

variable {F : Type}

/-- One operation. -/
def sharingStep (d : FlashDriver F) (s : Sharing) : SharingOp F → Checked Sharing
  | .write c =>
      let pushed := (loggerPushChar s.logger c).1
      .ok { s with
        logger := loggerWriteChar s.logger c
        accepted := if pushed then s.accepted ++ [c] else s.accepted
        rejected := if pushed then s.rejected else s.rejected + 1 }
  | .loggerTask => .ok (sharingLoggerTask s)
  | .flushPass =>
      -- one pass of the loop of `logger_flush`
      .ok (if s.logger.count > 0 then sharingLoggerTask s else s)
  | .request n nowMs req =>
      let resp := (handleModbusRequest d n nowMs req).2
      let tx := sendResponse s.tx resp
      .ok { s with
        tx := tx
        built := s.built ++ transmitted resp
        sentResponses := s.sentResponses ++ newlyTaken s.tx tx }
  | .txComplete => .ok { s with tx := (dma1Channel4IrqHandler s.tx).2 }

/-- After `logger_init`, with an idle channel. -/
def sharingStart (l : Logger) : Sharing := ⟨loggerInit l, ⟨false, []⟩, [], 0, [], [], []⟩

/-- Every character that entered the ring has been taken by the channel, is in the ring or is
counted as dropped, and every response built has been taken; the handler holds none back. -/
structure NothingLost (s : Sharing) : Prop where
  chars : ∃ uncounted : List UInt8,
    s.accepted.Perm (s.sentChars ++ loggerContents s.logger ++ uncounted) ∧
      s.logger.dropped = UInt32.ofNat (s.rejected + uncounted.length)
  responses : s.built.Perm s.sentResponses

/-- The channel is idle where the operation hands it a block. -/
def ChannelFree (s : Sharing) : SharingOp F → Prop
  | .write _ | .txComplete => True
  | .loggerTask | .flushPass => s.tx.enabled = false ∨ s.logger.count = 0
  | .request _ _ _ => s.tx.enabled = false

/-- The invariant of the runs in which the channel is always free: everything is in order. -/
structure SharingInv (s : Sharing) : Prop where
  logger : LoggerInv s.logger
  chars : s.accepted = s.sentChars ++ loggerContents s.logger
  dropped : s.logger.dropped = UInt32.ofNat s.rejected
  responses : s.built = s.sentResponses

theorem nothingLost_of_inv {s : Sharing} (h : SharingInv s) : NothingLost s := by
  refine ⟨⟨[], ?_, h.dropped⟩, by rw [h.responses]⟩
  rw [List.append_nil, h.chars]

theorem sharingInv_start (l : Logger) : SharingInv (sharingStart l) where
  logger := loggerInv_init l
  chars := by
    show [] = [] ++ loggerContents (loggerInit l)
    rw [loggerContents, show (loggerInit l).count = 0 from rfl, cyclicRead_zero]
    rfl
  dropped := rfl
  responses := rfl

end Step

/-! ## One hand-over -/

theorem uart1TxDmaAsync_idle {tx : UartTx} (h : tx.enabled = false) (data : List UInt8) :
    uart1TxDmaAsync tx data = (true, ⟨true, tx.taken ++ [data]⟩) := by
  rw [uart1TxDmaAsync, h]
  rfl

theorem uart1TxDmaAsync_busy {tx : UartTx} (h : tx.enabled = true) (data : List UInt8) :
    uart1TxDmaAsync tx data = (false, tx) := if_pos h

theorem newlyTaken_self (tx : UartTx) : newlyTaken tx tx = [] := List.drop_length

/-- A block that is handed over is taken, or the channel stays as it is. -/
theorem newlyTaken_uart1TxDmaAsync (tx : UartTx) (data : List UInt8) :
    newlyTaken tx (uart1TxDmaAsync tx data).2 = if tx.enabled then [] else [data] := by
  cases h : tx.enabled with
  | true =>
      rw [uart1TxDmaAsync_busy h]
      exact newlyTaken_self tx
  | false =>
      rw [uart1TxDmaAsync_idle h]
      exact List.drop_left

section LoggerSide

variable {s : Sharing}

/-- `logger_task` removes a chunk from the ring; an idle channel takes it. -/
theorem sharingLoggerTask_spec (h : LoggerInv s.logger) :
    ∃ l' tx', sharingLoggerTask s =
        { s with
          logger := l'
          tx := tx'
          sentChars := s.sentChars ++ if s.tx.enabled then [] else loggerChunk s.logger } ∧
      LoggerInv l' ∧ loggerContents l' = (loggerContents s.logger).drop loggerChunkSize ∧
      l'.dropped = s.logger.dropped := by
  obtain ⟨l', htask, hinv, hrest, hdropped⟩ := loggerTask_spec platformWrite h s.tx
  have hlen := length_loggerContents h
  refine ⟨l', (sharingLoggerTask s).tx, ?_, hinv, hrest, hdropped⟩
  rw [sharingLoggerTask, htask]
  by_cases hempty : s.logger.count = 0
  · have hchunk : loggerChunk s.logger = [] := by
      rw [loggerChunk, List.length_eq_zero_iff.1 (hlen.trans hempty), List.take_nil]
    simp only [if_pos hempty, newlyTaken_self, hchunk, ite_self, List.flatten_nil]
  · have hchunk : (loggerChunk s.logger).length ≠ 0 := by
      rw [loggerChunk, List.length_take, hlen]
      exact Nat.ne_of_gt (Nat.lt_min.2 ⟨by decide, Nat.pos_of_ne_zero hempty⟩)
    simp only [if_neg hempty, platformWrite, if_neg hchunk, newlyTaken_uart1TxDmaAsync]
    cases s.tx.enabled with
    | true => rfl
    | false => simp only [Bool.false_eq_true, if_false, List.flatten_singleton]

/-- A chunk handed to an idle channel stays in the account, and so does an empty one. -/
theorem sharingLoggerTask_inv (h : SharingInv s)
    (hfree : s.tx.enabled = false ∨ s.logger.count = 0) : SharingInv (sharingLoggerTask s) := by
  obtain ⟨l', tx', htask, hinv, hrest, hdropped⟩ := sharingLoggerTask_spec h.logger
  rw [htask]
  refine ⟨hinv, ?_, hdropped.trans h.dropped, h.responses⟩
  have hsplit : loggerChunk s.logger ++ loggerContents l' = loggerContents s.logger := by
    rw [hrest]
    exact List.take_append_drop _ _
  have hsent : (if s.tx.enabled then [] else loggerChunk s.logger) = loggerChunk s.logger := by
    rcases hfree with hidle | hempty
    · rw [hidle]
      rfl
    · rw [loggerChunk, loggerContents, hempty, cyclicRead_zero, List.take_nil, ite_self]
  show s.accepted = (s.sentChars ++ _) ++ loggerContents l'
  rw [h.chars, hsent, List.append_assoc, hsplit]

/-- A chunk handed to a busy channel is nowhere. -/
theorem sharingLoggerTask_loses (h : SharingInv s) (hbusy : s.tx.enabled = true)
    (hpos : s.logger.count ≠ 0) : ¬ NothingLost (sharingLoggerTask s) := by
  obtain ⟨l', tx', htask, -, hrest, hdropped⟩ := sharingLoggerTask_spec h.logger
  rw [htask, hbusy]
  rintro ⟨⟨uncounted, hperm, hcount⟩, -⟩
  have hcontents := length_loggerContents h.logger
  -- the chunk is what the account misses
  have hmissing : uncounted.length = min s.logger.count loggerChunkSize := by
    have hlen := hperm.length_eq
    simp only [h.chars, hrest, if_true, List.append_nil, List.length_append, List.length_drop,
      hcontents] at hlen
    rw [Nat.min_def]
    split <;> omega
  have hsize : loggerChunkSize = 32 := rfl
  have hsmall : 0 < uncounted.length ∧ uncounted.length ≤ 32 := by
    rw [hmissing, hsize]
    exact ⟨Nat.lt_min.2 ⟨Nat.pos_of_ne_zero hpos, by decide⟩, Nat.min_le_right _ _⟩
  have hmod : UInt32.ofNat s.rejected = UInt32.ofNat (s.rejected + uncounted.length) :=
    (hdropped.trans h.dropped).symm.trans hcount
  have hnat := congrArg UInt32.toNat hmod
  simp only [UInt32.toNat_ofNat'] at hnat
  omega

end LoggerSide

section Responses

variable {F : Type} (d : FlashDriver F) {s : Sharing} (n : Node F) (nowMs : UInt32)
  (req : ModbusRequest)

/-- The response of the handler is built, and taken by an idle channel. -/
theorem sharingStep_request :
    ∃ resp tx', sharingStep d s (.request n nowMs req) = .ok
      { s with
        tx := tx'
        built := s.built ++ [resp]
        sentResponses := s.sentResponses ++ if s.tx.enabled then [] else [resp] } := by
  obtain ⟨rest, hanswer⟩ := handleModbusRequest_answers d n nowMs req
  have hpos : (req.slaveAddr :: rest).length > 0 := Nat.succ_pos _
  refine ⟨req.slaveAddr :: rest, (uart1TxDmaAsync s.tx (req.slaveAddr :: rest)).2, ?_⟩
  rw [← newlyTaken_uart1TxDmaAsync]
  simp only [sharingStep, hanswer, transmitted, sendResponse, if_pos hpos]

end Responses

/-! ## Runs -/

section Runs

variable {F : Type} (d : FlashDriver F) {s : Sharing}

/-- An operation that finds the channel free keeps the invariant. -/
theorem sharingStep_inv (op : SharingOp F) (h : SharingInv s) (hfree : ChannelFree s op) :
    ∃ t, sharingStep d s op = .ok t ∧ SharingInv t := by
  cases op with
  | write c =>
      refine ⟨_, rfl, ?_⟩
      rcases Nat.lt_or_ge s.logger.count loggerBufferSize with hroom | hfull
      · obtain ⟨l', hpush, hinv, -, hcontents, hdropped⟩ := loggerPushChar_spec h.logger hroom c
        rw [loggerWriteChar, hpush]
        refine ⟨hinv, ?_, hdropped.trans h.dropped, h.responses⟩
        show s.accepted ++ [c] = s.sentChars ++ loggerContents l'
        rw [h.chars, hcontents, List.append_assoc]
      · rw [loggerWriteChar, loggerPushChar_full hfull c]
        refine ⟨⟨h.logger.tail_lt, h.logger.count_le, h.logger.head_eq⟩, h.chars, ?_, h.responses⟩
        show s.logger.dropped + 1 = UInt32.ofNat (s.rejected + 1)
        rw [h.dropped, UInt32.ofNat_add]
        rfl
  | loggerTask => exact ⟨_, rfl, sharingLoggerTask_inv h hfree⟩
  | flushPass =>
      refine ⟨_, rfl, ?_⟩
      split
      · exact sharingLoggerTask_inv h hfree
      · exact h
  | request n nowMs req =>
      obtain ⟨resp, tx', hstep⟩ := sharingStep_request d (s := s) n nowMs req
      have hidle : s.tx.enabled = false := hfree
      refine ⟨_, hstep, h.logger, h.chars, h.dropped, ?_⟩
      show s.built ++ [resp] = s.sentResponses ++ _
      rw [h.responses, hidle]
      rfl
  | txComplete => exact ⟨_, rfl, h.logger, h.chars, h.dropped, h.responses⟩

/-- An operation that hands a block to the busy channel loses it. -/
theorem sharingStep_loses (op : SharingOp F) {t : Sharing} (h : SharingInv s)
    (hbusy : ¬ ChannelFree s op) (ht : sharingStep d s op = .ok t) : ¬ NothingLost t := by
  cases op with
  | write c => exact absurd trivial hbusy
  | loggerTask =>
      cases ht
      obtain ⟨hen, hpos⟩ := not_or.1 hbusy
      exact sharingLoggerTask_loses h (Bool.not_eq_false _ ▸ hen) hpos
  | flushPass =>
      cases ht
      obtain ⟨hen, hpos⟩ := not_or.1 hbusy
      rw [if_pos (Nat.pos_of_ne_zero hpos)]
      exact sharingLoggerTask_loses h (Bool.not_eq_false _ ▸ hen) hpos
  | request n nowMs req =>
      obtain ⟨resp, tx', hstep⟩ := sharingStep_request d (s := s) n nowMs req
      have hen : s.tx.enabled = true := Bool.not_eq_false _ ▸ hbusy
      rw [hstep, hen] at ht
      cases ht
      rintro ⟨-, hperm⟩
      -- one response more has been built than taken
      have hlen := hperm.length_eq
      simp only [h.responses, if_true, List.append_nil, List.length_append,
        List.length_singleton] at hlen
      exact Nat.succ_ne_self _ hlen
  | txComplete => exact absurd trivial hbusy

/-- Passes without anything in between are the loop of `logger_flush`. -/
theorem run_flushPass (n : Nat) : ∀ s : Sharing,
    ∃ t, run (sharingStep d) s (List.replicate n .flushPass) = .ok t ∧
      (t.logger, t.tx) = loggerFlushLoop platformWrite n s.logger s.tx := by
  induction n with
  | zero => exact fun s => ⟨s, rfl, rfl⟩
  | succ n ih =>
      intro s
      rcases Nat.eq_zero_or_pos s.logger.count with hempty | hpos
      · obtain ⟨t, ht, hloop⟩ := ih s
        have hstep : sharingStep d s .flushPass = .ok s := by
          rw [sharingStep, if_neg (Nat.not_lt.2 (Nat.le_of_eq hempty))]
        refine ⟨t, (run_cons_ok hstep _).trans ht, ?_⟩
        rw [hloop, loggerFlushLoop_of_empty platformWrite n s.tx hempty,
          loggerFlushLoop_of_empty platformWrite (n + 1) s.tx hempty]
      · obtain ⟨t, ht, hloop⟩ := ih (sharingLoggerTask s)
        have hstep : sharingStep d s .flushPass = .ok (sharingLoggerTask s) := by
          rw [sharingStep, if_pos hpos]
        refine ⟨t, (run_cons_ok hstep _).trans ht, ?_⟩
        rw [hloop, loggerFlushLoop, if_pos hpos]
        rfl

/-- In every run from the start of the logger, nothing is lost in any state exactly when the channel
is idle wherever the run hands it a block. -/
theorem nothing_lost_iff (l : Logger) (ops : List (SharingOp F)) :
    AlwaysAlong (sharingStep d) NothingLost (sharingStart l) ops ↔
      StepsMeet (sharingStep d) ChannelFree (sharingStart l) ops := by
  apply alwaysAlong_iff_stepsMeet (I := SharingInv)
  · exact fun _ h => nothingLost_of_inv h
  · exact fun _ op h hfree => sharingStep_inv d op h hfree
  · exact fun _ op _ h hbusy ht => sharingStep_loses d op h hbusy ht
  · exact sharingInv_start l

end Runs

/-- A line one character longer than a chunk, flushed. -/
def flushedLine : List (SharingOp Stm32f1Flash) :=
  List.replicate 33 (.write 0x2D) ++ [.flushPass, .flushPass]

/-- The second pass finds the channel busy with the first chunk, and the last character is gone. -/
theorem flush_loses_line_end :
    ¬ ∀ (F : Type) (d : FlashDriver F) (l : Logger) (ops : List (SharingOp F)),
      AlwaysAlong (sharingStep d) NothingLost (sharingStart l) ops := by
  intro h
  have hall := h Stm32f1Flash stm32f1Flash ⟨Vector.replicate loggerBufferSize 0, 0, 0, 0, 0⟩
    flushedLine
  obtain ⟨t, ht, ⟨uncounted, hperm, hcount⟩, -⟩ :=
    alwaysAlong_iff_prefix.1 hall _ (List.prefix_refl _)
  have hend : (run (sharingStep stm32f1Flash)
      (sharingStart ⟨Vector.replicate loggerBufferSize 0, 0, 0, 0, 0⟩) flushedLine).toOption.map
        (fun s => (s.accepted.length, s.sentChars.length, (loggerContents s.logger).length,
          s.logger.dropped, s.rejected)) = some (33, 32, 0, 0, 0) := by
    decide +kernel
  rw [ht] at hend
  simp only [Except.toOption, Option.map_some, Option.some.injEq, Prod.mk.injEq] at hend
  obtain ⟨haccepted, hsent, hpending, hdropped, hrejected⟩ := hend
  have hlen := hperm.length_eq
  rw [List.length_append, List.length_append, haccepted, hsent, hpending] at hlen
  have hone : uncounted.length = 1 := by omega
  rw [hone, hdropped, hrejected] at hcount
  cases hcount

end ClimateNode.Application
