import ClimateNode.Machine.WrittenPrefix
import ClimateNode.Service.PolledBursts

/-!
# The polled server on its array

`modbus_server_task` with the array `buf` of the server, access by access. `ModbusServer` keeps the
received bytes as a list; `ArrayServer` keeps the array and `len`, and `arrayTask_refines` says that
the two agree. A call also reports what became of the array: nothing, a frame for the callback, or a
block discarded by an overflow.

`supply` is what `recv` has to offer to a call. It decides the call: `arrayTask_exit` lists its
three exits.
-/

set_option autoImplicit false

namespace ClimateNode.Service

open ClimateNode.Core
open ClimateNode.Machine

variable {ρ : Type}

/-- `modbus_server_t` with its array. The other fields are those of `srv`, whose list of received
bytes is not used. -/
structure ArrayServer where
  cells : Vector UInt8 modbusServerMaxFrame
  len : Nat
  srv : ModbusServer

/-- The bytes in the array below `len`. -/
def ArrayServer.content (s : ArrayServer) : List UInt8 := s.cells.toList.take s.len

/-- The same server with a list of received bytes. -/
def ArrayServer.toServer (s : ArrayServer) : ModbusServer := { s.srv with buf := s.content }

/-- What a call of the task did with the array. -/
inductive TaskOutcome where
  | quiet
  | handed (frame : List UInt8)
  | overflowed (block : List UInt8)
  deriving DecidableEq, Repr

/-- The early return of the task. -/
def TaskOutcome.overflow : TaskOutcome → Bool
  | .overflowed _ => true
  | .quiet | .handed _ => false

/-- What a call of the task leaves, or its polling loop. -/
structure ArrayStep (ρ : Type) where
  server : ArrayServer
  recvCtx : ρ
  outcome : TaskOutcome

/-- The polling loop of `modbus_server_task` on the array, with `n` bytes to go. -/
def arrayPoll (recv : ρ → Option UInt8 × ρ) (nowMs : UInt32) :
    Nat → ArrayServer → ρ → Checked (ArrayStep ρ)
  | 0, s, ctx => pure ⟨s, ctx, .quiet⟩
  | n + 1, s, ctx =>
      match recv ctx with
      | (.none, ctx) => pure ⟨s, ctx, .quiet⟩
      | (.some byte, ctx) =>
          -- the early return: the array and the byte that found it full are given up
          if s.len ≥ modbusServerMaxFrame then
            pure ⟨{ s with
                len := 0
                srv := { s.srv with
                  overflowCount := s.srv.overflowCount + 1
                  errorCount := s.srv.errorCount + 1
                  event := .overflow } }, ctx, .overflowed (s.content ++ [byte])⟩
          else do
            let cells ← writeAt s.cells s.len byte
            arrayPoll recv nowMs n
              { cells := cells
                len := s.len + 1
                srv := { s.srv with
                  lastByteMs := nowMs
                  rxByteCount := s.srv.rxByteCount + 1 } } ctx

/-- `modbus_server_task` on the array, for a `recv` that is not null. -/
def arrayTask (recv : ρ → Option UInt8 × ρ) (ctx : ρ) (s : ArrayServer) (nowMs : UInt32) :
    Checked (ArrayStep ρ) := do
  let r ← arrayPoll recv nowMs 16 s ctx
  match r.outcome with
  | .overflowed _ => return r
  | _ =>
      if r.server.len > 0 ∧
          (nowMs - r.server.srv.lastByteMs).toInt32 ≥ r.server.srv.silenceMs.toInt32 then
        let data ← readPrefix r.server.cells r.server.len
        return ⟨{ r.server with
            len := 0
            srv := modbusUartEventCallback r.server.srv (.rxChunk data) }, r.recvCtx, .handed data⟩
      else return r

/-- What `recv` offers, at most `n` bytes of it. -/
def supply (recv : ρ → Option UInt8 × ρ) : Nat → ρ → List UInt8
  | 0, _ => []
  | n + 1, ctx =>
      match recv ctx with
      | (.none, _) => []
      | (.some byte, ctx) => byte :: supply recv n ctx

theorem supply_none {recv : ρ → Option UInt8 × ρ} {n : Nat} {ctx : ρ} (h : (recv ctx).1 = none) :
    supply recv (n + 1) ctx = [] := by
  obtain ⟨next, hnext⟩ := exists_recv_eq h
  simp only [supply, hnext]

theorem supply_some {recv : ρ → Option UInt8 × ρ} {n : Nat} {ctx : ρ} {byte : UInt8}
    (h : (recv ctx).1 = some byte) :
    supply recv (n + 1) ctx = byte :: supply recv n (recv ctx).2 := by
  obtain ⟨next, hnext⟩ := exists_recv_eq h
  simp only [supply, hnext]

/-! ## The array below its length -/

section Content

variable {s : ArrayServer}

theorem length_content (h : s.len ≤ modbusServerMaxFrame) : s.content.length = s.len := by
  rw [ArrayServer.content, List.length_take, Vector.length_toList, Nat.min_eq_left h]

theorem starts_content (h : s.len ≤ modbusServerMaxFrame) : Starts s.cells s.content := by
  have hlen := length_content h
  refine ⟨by omega, ?_⟩
  rw [hlen]
  rfl

/-- A byte that fits is stored behind the others. -/
theorem writeAt_content (h : s.len < modbusServerMaxFrame) (byte : UInt8) :
    ∃ cells, writeAt s.cells s.len byte = .ok cells ∧
      cells.toList.take (s.len + 1) = s.content ++ [byte] := by
  have hlen := length_content (Nat.le_of_lt h)
  obtain ⟨cells, hwrite, hstarts⟩ := writeAt_starts (starts_content (Nat.le_of_lt h)) hlen h byte
  refine ⟨cells, hwrite, ?_⟩
  have hbytes := hstarts.bytes
  rwa [List.length_append, List.length_singleton, hlen] at hbytes

theorem readPrefix_content (h : s.len ≤ modbusServerMaxFrame) :
    readPrefix s.cells s.len = .ok s.content :=
  readPrefix_starts (starts_content h) (length_content h)

end Content

/-! ## The list of received bytes -/

section Refinement

variable {s : ArrayServer} {nowMs : UInt32}

theorem length_toServer_buf (h : s.len ≤ modbusServerMaxFrame) : s.toServer.buf.length = s.len :=
  length_content h

/-- The loop on the array does what the loop on the list does. -/
theorem arrayPoll_refines (recv : ρ → Option UInt8 × ρ) (nowMs : UInt32) (n : Nat) :
    ∀ {s : ArrayServer} (ctx : ρ), s.len ≤ modbusServerMaxFrame →
      ∃ r, arrayPoll recv nowMs n s ctx = .ok r ∧ r.server.len ≤ modbusServerMaxFrame ∧
        modbusPoll recv nowMs n s.toServer ctx =
          ⟨r.server.toServer, r.recvCtx, r.outcome.overflow⟩ := by
  induction n with
  | zero => exact fun ctx h => ⟨_, rfl, h, rfl⟩
  | succ n ih =>
      intro s ctx h
      have hlen := length_toServer_buf h
      rcases hrecv : recv ctx with ⟨_ | byte, next⟩
      · refine ⟨⟨s, next, .quiet⟩, ?_, h, ?_⟩
        · simp only [arrayPoll, hrecv, checked_pure]
        · simp only [modbusPoll, hrecv, TaskOutcome.overflow]
      · by_cases hfull : s.len ≥ modbusServerMaxFrame
        · simp only [arrayPoll, modbusPoll, hrecv, hlen, if_pos hfull, checked_pure]
          exact ⟨_, rfl, Nat.zero_le _, rfl⟩
        · have hroom : s.len + 1 ≤ modbusServerMaxFrame := Nat.lt_of_not_le hfull
          obtain ⟨cells, hwrite, hcells⟩ := writeAt_content (Nat.lt_of_not_le hfull) byte
          -- both loops go on with the byte stored
          obtain ⟨r, hr, hle, hpoll⟩ :=
            ih (s := ⟨cells, s.len + 1, { s.srv with
              lastByteMs := nowMs
              rxByteCount := s.srv.rxByteCount + 1 }⟩) next hroom
          refine ⟨r, ?_, hle, ?_⟩
          · simp only [arrayPoll, hrecv, if_neg hfull, hwrite, checked_ok_bind, hr]
          · simp only [modbusPoll, hrecv, hlen, if_neg hfull]
            rw [← hpoll]
            simp only [ArrayServer.toServer, ArrayServer.content, hcells]

/-- The callback does not look at the buffer. -/
theorem modbusRxChunk_buf (s : ModbusServer) (buf data : List UInt8) :
    modbusRxChunk { s with buf := buf } data = { modbusRxChunk s data with buf := buf } := by
  simp only [modbusRxChunk]
  split_ifs <;> rfl

/-- The task on the array does what the task on the list does, and keeps its length within the
array. -/
theorem arrayTask_refines (recv : ρ → Option UInt8 × ρ) (ctx : ρ)
    (h : s.len ≤ modbusServerMaxFrame) (nowMs : UInt32) :
    ∃ r, arrayTask recv ctx s nowMs = .ok r ∧ r.server.len ≤ modbusServerMaxFrame ∧
      modbusServerTask (some recv) ctx s.toServer nowMs =
        (.ok, r.server.toServer, r.recvCtx) := by
  obtain ⟨⟨server, next, outcome⟩, hr, hle, hpoll⟩ := arrayPoll_refines recv nowMs 16 ctx h
  have hlen := length_toServer_buf hle
  have hread := readPrefix_content hle
  simp only [arrayTask, modbusServerTask, hr, hpoll, checked_ok_bind, checked_pure]
  cases outcome with
  | overflowed block => exact ⟨_, rfl, hle, rfl⟩
  | quiet | handed =>
      simp only [hlen, TaskOutcome.overflow, Bool.false_eq_true, if_false]
      by_cases hdue : server.len > 0 ∧
          (nowMs - server.srv.lastByteMs).toInt32 ≥ server.srv.silenceMs.toInt32
      · simp only [if_pos hdue, hread, checked_ok_bind]
        refine ⟨_, rfl, Nat.zero_le _, (if_pos hdue).trans ?_⟩
        exact congrArg (Err.ok, ·, next) (modbusRxChunk_buf server.srv [] server.content)
      · rw [if_neg hdue]
        exact ⟨_, rfl, hle, if_neg hdue⟩

end Refinement

/-! ## The exits of a call -/

section Exits

variable {recv : ρ → Option UInt8 × ρ} {s : ArrayServer} {nowMs : UInt32}

/-- The other fields after `bytes` have been stored. -/
def storedBytes (srv : ModbusServer) (nowMs : UInt32) (bytes : List UInt8) : ModbusServer :=
  { srv with
    lastByteMs := if bytes = [] then srv.lastByteMs else nowMs
    rxByteCount := srv.rxByteCount + UInt32.ofNat bytes.length }

/-- The other fields after an overflow whose block took `n` new bytes, the last of them not
stored. -/
def overflowedBytes (srv : ModbusServer) (lastByteMs : UInt32) (n : Nat) : ModbusServer :=
  { srv with
    lastByteMs := lastByteMs
    rxByteCount := srv.rxByteCount + UInt32.ofNat (n - 1)
    overflowCount := srv.overflowCount + 1
    errorCount := srv.errorCount + 1
    event := .overflow }

/-- How the polling loop leaves the server `s` when `offered` is what `recv` has for it: the server,
the bytes received, and the outcome. -/
inductive PollExit (s : ArrayServer) (nowMs : UInt32) (offered : List UInt8) :
    ArrayServer → List UInt8 → TaskOutcome → Prop where
  | stored (server : ArrayServer)
      (hfits : s.len + offered.length ≤ modbusServerMaxFrame)
      (hlen : server.len = s.len + offered.length)
      (hcontent : server.content = s.content ++ offered)
      (hsrv : server.srv = storedBytes s.srv nowMs offered) :
      PollExit s nowMs offered server offered .quiet
  | overflowed (server : ArrayServer) (bytes : List UInt8) (lastByteMs : UInt32)
      (hover : modbusServerMaxFrame < s.len + offered.length)
      (hblock : (s.content ++ bytes).length = modbusServerMaxFrame + 1)
      (hlen : server.len = 0)
      (hsrv : server.srv = overflowedBytes s.srv lastByteMs bytes.length) :
      PollExit s nowMs offered server bytes (.overflowed (s.content ++ bytes))

/-- One more stored byte in front. -/
theorem storedBytes_cons (srv : ModbusServer) (byte : UInt8) (bytes : List UInt8) :
    storedBytes { srv with lastByteMs := nowMs, rxByteCount := srv.rxByteCount + 1 } nowMs bytes =
      storedBytes srv nowMs (byte :: bytes) := by
  simp only [storedBytes, ite_self, List.cons_ne_nil, if_false, List.length_cons, UInt32.ofNat_add,
    UInt32.add_assoc, UInt32.add_comm (UInt32.ofNat bytes.length)]
  rfl

theorem overflowedBytes_succ (srv : ModbusServer) (lastByteMs : UInt32) {n : Nat} (hn : 0 < n) :
    overflowedBytes { srv with lastByteMs := nowMs, rxByteCount := srv.rxByteCount + 1 } lastByteMs
        n = overflowedBytes srv lastByteMs (n + 1) := by
  obtain ⟨m, rfl⟩ := Nat.exists_eq_succ_of_ne_zero (Nat.ne_of_gt hn)
  simp only [overflowedBytes, Nat.succ_eq_add_one, Nat.add_sub_cancel, UInt32.ofNat_add,
    UInt32.add_assoc, UInt32.add_comm (UInt32.ofNat m)]
  rfl

/-- A stored byte in front of an exit. -/
theorem PollExit.cons {s₁ server : ArrayServer} {byte : UInt8} {rest bytes : List UInt8}
    {outcome : TaskOutcome} (hlen : s₁.len = s.len + 1) (hle : s₁.len ≤ modbusServerMaxFrame)
    (hcontent : s₁.content = s.content ++ [byte])
    (hsrv : s₁.srv = { s.srv with
      lastByteMs := nowMs
      rxByteCount := s.srv.rxByteCount + 1 })
    (h : PollExit s₁ nowMs rest server bytes outcome) :
    PollExit s nowMs (byte :: rest) server (byte :: bytes) outcome := by
  cases h with
  | stored hfits hlen' hcontent' hsrv' =>
      refine .stored server ?_ ?_ ?_ ?_
      · rw [List.length_cons]
        omega
      · rw [List.length_cons]
        omega
      · rw [hcontent', hcontent, List.append_assoc, List.singleton_append]
      · rw [hsrv', hsrv, storedBytes_cons]
  | overflowed _ lastByteMs hover hblock hlen' hsrv' =>
      have hpos : 0 < bytes.length := by
        rw [List.length_append, length_content hle] at hblock
        omega
      rw [hcontent, List.append_assoc, List.singleton_append] at hblock ⊢
      refine .overflowed server (byte :: bytes) lastByteMs ?_ hblock hlen' ?_
      · rw [List.length_cons]
        omega
      · rw [hsrv', hsrv, overflowedBytes_succ _ _ hpos, List.length_cons]

/-- Nothing is offered. -/
theorem PollExit.nil (h : s.len ≤ modbusServerMaxFrame) : PollExit s nowMs [] s [] .quiet := by
  refine .stored s h rfl (List.append_nil _).symm ?_
  simp [storedBytes]

/-- The first byte finds the array full. -/
theorem PollExit.full (h : s.len ≤ modbusServerMaxFrame) (hfull : modbusServerMaxFrame ≤ s.len)
    {server : ArrayServer} (byte : UInt8) (rest : List UInt8) (hlen : server.len = 0)
    (hsrv : server.srv = overflowedBytes s.srv s.srv.lastByteMs 1) :
    PollExit s nowMs (byte :: rest) server [byte] (.overflowed (s.content ++ [byte])) := by
  refine .overflowed server [byte] s.srv.lastByteMs ?_ ?_ hlen hsrv
  · rw [List.length_cons]
    omega
  · rw [List.length_append, length_content h, List.length_singleton]
    omega

/-- The loop returns and leaves by one of its exits. -/
theorem arrayPoll_exit (recv : ρ → Option UInt8 × ρ) (nowMs : UInt32) (n : Nat) :
    ∀ {s : ArrayServer} (ctx : ρ) (log : List UInt8), s.len ≤ modbusServerMaxFrame →
      ∃ r bytes, arrayPoll (loggedRecv recv) nowMs n s (ctx, log) = .ok r ∧
        r.recvCtx.2 = log ++ bytes ∧
        PollExit s nowMs (supply recv n ctx) r.server bytes r.outcome := by
  induction n with
  | zero =>
      intro s ctx log h
      exact ⟨_, [], rfl, (List.append_nil _).symm, .nil h⟩
  | succ n ih =>
      intro s ctx log h
      cases hbyte : (recv ctx).1 with
      | none =>
          refine ⟨⟨s, ((recv ctx).2, log), .quiet⟩, [], ?_, (List.append_nil _).symm, ?_⟩
          · simp only [arrayPoll, loggedRecv_none hbyte, checked_pure]
          · rw [supply_none hbyte]
            exact .nil h
      | some byte =>
          rw [supply_some hbyte]
          by_cases hfull : s.len ≥ modbusServerMaxFrame
          · simp only [arrayPoll, loggedRecv_some hbyte, if_pos hfull, checked_pure]
            refine ⟨_, [byte], rfl, rfl, .full h hfull byte _ rfl ?_⟩
            simp [overflowedBytes]
          · obtain ⟨cells, hwrite, hcells⟩ := writeAt_content (Nat.lt_of_not_le hfull) byte
            -- the rest of the loop starts with the byte stored
            have hroom : s.len + 1 ≤ modbusServerMaxFrame := Nat.lt_of_not_le hfull
            obtain ⟨r, bytes, hr, hlog, hexit⟩ :=
              ih (s := ⟨cells, s.len + 1, { s.srv with
                lastByteMs := nowMs
                rxByteCount := s.srv.rxByteCount + 1 }⟩) (recv ctx).2 (log ++ [byte]) hroom
            refine ⟨r, byte :: bytes, ?_, ?_, ?_⟩
            · simp only [arrayPoll, loggedRecv_some hbyte, if_neg hfull, hwrite, checked_ok_bind,
                hr]
            · rw [hlog, List.append_assoc, List.singleton_append]
            · exact hexit.cons rfl hroom (by exact hcells) rfl

/-- The call finds bytes, or receives some, that have been silent long enough at its end. -/
def Due (s : ArrayServer) (nowMs : UInt32) (offered : List UInt8) : Prop :=
  0 < s.len + offered.length ∧
    (nowMs - (if offered = [] then s.srv.lastByteMs else nowMs)).toInt32 ≥ s.srv.silenceMs.toInt32

instance (s : ArrayServer) (nowMs : UInt32) (offered : List UInt8) :
    Decidable (Due s nowMs offered) := inferInstanceAs (Decidable (_ ∧ _))

/-- How a call of the task leaves the server `s` when `offered` is what `recv` has for it: the
server, the bytes received, and the outcome. -/
inductive TaskExit (s : ArrayServer) (nowMs : UInt32) (offered : List UInt8) :
    ArrayServer → List UInt8 → TaskOutcome → Prop where
  | quiet (server : ArrayServer)
      (hfits : s.len + offered.length ≤ modbusServerMaxFrame)
      (hwait : ¬ Due s nowMs offered)
      (hlen : server.len = s.len + offered.length)
      (hcontent : server.content = s.content ++ offered)
      (hsrv : server.srv = storedBytes s.srv nowMs offered) :
      TaskExit s nowMs offered server offered .quiet
  | handed (server : ArrayServer)
      (hfits : s.len + offered.length ≤ modbusServerMaxFrame)
      (hdue : Due s nowMs offered)
      (hlen : server.len = 0)
      (hsrv : server.srv = modbusUartEventCallback (storedBytes s.srv nowMs offered)
        (.rxChunk (s.content ++ offered))) :
      TaskExit s nowMs offered server offered (.handed (s.content ++ offered))
  | overflowed (server : ArrayServer) (bytes : List UInt8) (lastByteMs : UInt32)
      (hover : modbusServerMaxFrame < s.len + offered.length)
      (hblock : (s.content ++ bytes).length = modbusServerMaxFrame + 1)
      (hlen : server.len = 0)
      (hsrv : server.srv = overflowedBytes s.srv lastByteMs bytes.length) :
      TaskExit s nowMs offered server bytes (.overflowed (s.content ++ bytes))

/-- Every call returns and leaves by one of the three exits. -/
theorem arrayTask_exit (recv : ρ → Option UInt8 × ρ) (ctx : ρ) (log : List UInt8)
    (h : s.len ≤ modbusServerMaxFrame) (nowMs : UInt32) :
    ∃ r bytes, arrayTask (loggedRecv recv) (ctx, log) s nowMs = .ok r ∧
      r.recvCtx.2 = log ++ bytes ∧
      TaskExit s nowMs (supply recv 16 ctx) r.server bytes r.outcome := by
  obtain ⟨⟨server, next, outcome⟩, bytes, hpoll, hlog, hexit⟩ :=
    arrayPoll_exit recv nowMs 16 ctx log h
  simp only [arrayTask, hpoll, checked_ok_bind, checked_pure]
  cases hexit with
  | overflowed _ lastByteMs hover hblock hlen hsrv =>
      exact ⟨_, bytes, rfl, hlog, .overflowed server bytes lastByteMs hover hblock hlen hsrv⟩
  | stored hfits hlen hcontent hsrv =>
      -- the test of the task is `Due`
      have htest : (server.len > 0 ∧
          (nowMs - server.srv.lastByteMs).toInt32 ≥ server.srv.silenceMs.toInt32) ↔
            Due s nowMs (supply recv 16 ctx) := by
        rw [hlen, hsrv]
        rfl
      by_cases hdue : Due s nowMs (supply recv 16 ctx)
      · have hread : readPrefix server.cells server.len = .ok server.content :=
          readPrefix_content (hlen.trans_le hfits)
        simp only [if_pos (htest.2 hdue), hread, checked_ok_bind, hcontent]
        refine ⟨_, _, rfl, hlog, .handed _ hfits hdue rfl ?_⟩
        exact congrArg (modbusUartEventCallback · (.rxChunk (s.content ++ supply recv 16 ctx))) hsrv
      · rw [if_neg fun htrue => hdue (htest.1 htrue)]
        exact ⟨_, _, rfl, hlog, .quiet server hfits hdue hlen hcontent hsrv⟩

end Exits

end ClimateNode.Service
