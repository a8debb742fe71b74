import ClimateNode.Machine.Runs
import ClimateNode.Machine.WrapTime
import ClimateNode.Service.ModbusFrames
import ClimateNode.Service.ModbusServer

/-!
# Bursts and the polled server

A burst is what the polled server receives between two silences. The task keeps at most 256 bytes
and discards them with the byte after them, without a note that the burst goes on, so the buffer
holds the burst without its first multiple of 257 bytes (`burstTail`). A request is accepted for
whole bursts exactly as long as no over-long burst has a request as that tail
(`polled_requests_iff`).
-/

set_option autoImplicit false

namespace ClimateNode.Service

open ClimateNode.Machine

universe u

variable {ρ : Type u}

/-! ## Calls and bursts -/

/-- `recv` with a log of the bytes it returns. -/
def loggedRecv (recv : ρ → Option UInt8 × ρ) (s : ρ × List UInt8) :
    Option UInt8 × (ρ × List UInt8) :=
  match recv s.1 with
  | (.none, ctx) => (.none, ctx, s.2)
  | (.some byte, ctx) => (.some byte, ctx, s.2 ++ [byte])

/-- A call of the task: its time and what `recv` has to offer. -/
structure PollCall (ρ : Type u) where
  nowMs : UInt32
  recvCtx : ρ

/-- The server with what has happened to it: the bytes received since the last silence, those that
were discarded included, the time of the last byte, and the bursts that raised a request. -/
structure BurstTrace where
  server : ModbusServer
  burst : List UInt8
  lastRxMs : UInt32
  accepted : List (List UInt8)

/-- The call finds no byte, at least the silence time and less than `2^31` ms after the last one. -/
def BurstTrace.Silent (recv : ρ → Option UInt8 × ρ) (t : BurstTrace) (c : PollCall ρ) : Prop :=
  (recv c.recvCtx).1 = none ∧ t.burst ≠ [] ∧
    t.server.silenceMs.toNat ≤ (c.nowMs - t.lastRxMs).toNat ∧
    (c.nowMs - t.lastRxMs).toNat < 2147483648

instance (recv : ρ → Option UInt8 × ρ) (t : BurstTrace) (c : PollCall ρ) :
    Decidable (t.Silent recv c) := inferInstanceAs (Decidable (_ ∧ _ ∧ _ ∧ _))

/-- On an unbounded clock that is less than `2^31` ms after the last byte, a silence is the elapsed
time. -/
theorem silent_iff_elapsed {recv : ρ → Option UInt8 × ρ} {t : BurstTrace} {m k : Nat} {ctx : ρ}
    (hlast : t.lastRxMs = UInt32.ofNat m) (hle : m ≤ k) (hspan : k < m + 2147483648) :
    t.Silent recv ⟨UInt32.ofNat k, ctx⟩ ↔
      (recv ctx).1 = none ∧ t.burst ≠ [] ∧ t.server.silenceMs.toNat ≤ k - m := by
  have helapsed : (UInt32.ofNat k - UInt32.ofNat m).toNat = k - m := by
    rw [UInt32.toNat_sub, UInt32.toNat_ofNat', UInt32.toNat_ofNat']
    omega
  have hshort : (UInt32.ofNat k - UInt32.ofNat m).toNat < 2147483648 := by omega
  simp only [BurstTrace.Silent, hlast, and_iff_left hshort]
  rw [helapsed]

/-- A call raised `MODBUS_EVENT_REQUEST`, which no call but the one that counts the frame does. -/
def RaisesRequest (before after : ModbusServer) : Prop :=
  after.event = .request ∧ after.frameCount ≠ before.frameCount

instance (before after : ModbusServer) : Decidable (RaisesRequest before after) :=
  inferInstanceAs (Decidable (_ ∧ _))

/-- One call of the task. -/
def pollCall (recv : ρ → Option UInt8 × ρ) (t : BurstTrace) (c : PollCall ρ) : BurstTrace :=
  let r := modbusServerTask (some (loggedRecv recv)) (c.recvCtx, []) t.server c.nowMs
  let received := r.2.2.2
  { server := r.2.1
    burst := if t.Silent recv c then [] else t.burst ++ received
    lastRxMs := if received = [] then t.lastRxMs else c.nowMs
    accepted :=
      if RaisesRequest t.server r.2.1 then t.accepted ++ [t.burst ++ received] else t.accepted }

/-- One call, as a step that does not stop. -/
def pollStep (recv : ρ → Option UInt8 × ρ) (t : BurstTrace) (c : PollCall ρ) : Checked BurstTrace :=
  .ok (pollCall recv t c)

/-- A server before its first call. -/
def burstStart (slaveAddr : UInt8) (silenceMs : UInt32) : BurstTrace :=
  ⟨modbusServerInit slaveAddr silenceMs, [], 0, []⟩

/-- A valid request of eight bytes for this node. -/
def IsRequest (slaveAddr : UInt8) (frame : List UInt8) : Prop :=
  frame.length = 8 ∧ modbusFrameHasValidCrc frame = true ∧
    (frame.getD 0 0 = slaveAddr ∨ frame.getD 0 0 = 0) ∧
    (frame.getD 1 0 = 0x03 ∨ frame.getD 1 0 = 0x06)

instance (slaveAddr : UInt8) (frame : List UInt8) : Decidable (IsRequest slaveAddr frame) :=
  inferInstanceAs (Decidable (_ ∧ _ ∧ _ ∧ _))

/-- Only whole bursts that are one valid request were accepted. -/
def OnlyWholeBursts (slaveAddr : UInt8) (t : BurstTrace) : Prop :=
  ∀ burst ∈ t.accepted, IsRequest slaveAddr burst

/-! ## The buffer -/

section Tail

/-- What the buffer holds of a burst: each byte that finds it full empties it. -/
def burstTail (burst : List UInt8) : List UInt8 :=
  burst.drop ((modbusServerMaxFrame + 1) * (burst.length / (modbusServerMaxFrame + 1)))

@[simp] theorem burstTail_nil : burstTail [] = [] := rfl

theorem length_burstTail (burst : List UInt8) :
    (burstTail burst).length = burst.length % (modbusServerMaxFrame + 1) := by
  rw [burstTail, List.length_drop, modbusServerMaxFrame]
  omega

theorem burstTail_of_le {burst : List UInt8} (h : burst.length ≤ modbusServerMaxFrame) :
    burstTail burst = burst := by
  rw [burstTail, Nat.div_eq_of_lt (Nat.lt_succ_of_le h), Nat.mul_zero, List.drop_zero]

/-- A byte that finds the buffer full is lost with it. -/
theorem burstTail_snoc_full {burst : List UInt8}
    (h : modbusServerMaxFrame ≤ (burstTail burst).length) (byte : UInt8) :
    burstTail (burst ++ [byte]) = [] := by
  rw [length_burstTail, modbusServerMaxFrame] at h
  rw [← List.length_eq_zero_iff, length_burstTail, List.length_append, List.length_singleton,
    modbusServerMaxFrame]
  omega

theorem burstTail_snoc_room {burst : List UInt8}
    (h : (burstTail burst).length < modbusServerMaxFrame) (byte : UInt8) :
    burstTail (burst ++ [byte]) = burstTail burst ++ [byte] := by
  rw [length_burstTail, modbusServerMaxFrame] at h
  have hdiv : (burst.length + 1) / 257 = burst.length / 257 := by omega
  rw [burstTail, List.length_append, List.length_singleton, modbusServerMaxFrame, hdiv,
    List.drop_append_of_le_length (by omega)]
  rfl

end Tail

/-! ## One call -/

section Call

variable {recv : ρ → Option UInt8 × ρ} {s : ModbusServer} {burst log : List UInt8}
  {lastRxMs nowMs : UInt32} {ctx : ρ}

/-- The server holds the tail of the burst, and the time of its last byte. -/
structure HoldsBurst (s : ModbusServer) (burst : List UInt8) (lastRxMs : UInt32) : Prop where
  buf : s.buf = burstTail burst
  time : s.buf ≠ [] → s.lastByteMs = lastRxMs

/-- What a polling loop that received `bytes` has done to the server. -/
structure Polled (s : ModbusServer) (burst : List UInt8) (lastRxMs nowMs : UInt32)
    (bytes : List UInt8) (s' : ModbusServer) : Prop where
  holds : HoldsBurst s' (burst ++ bytes) (if bytes = [] then lastRxMs else nowMs)
  silenceMs : s'.silenceMs = s.silenceMs
  slaveAddr : s'.slaveAddr = s.slaveAddr
  frameCount : s'.frameCount = s.frameCount

theorem exists_recv_eq {x : Option UInt8} (h : (recv ctx).1 = x) : ∃ next, recv ctx = (x, next) :=
  ⟨(recv ctx).2, Prod.ext h rfl⟩

theorem loggedRecv_none (h : (recv ctx).1 = none) (log : List UInt8) :
    loggedRecv recv (ctx, log) = (none, (recv ctx).2, log) := by
  obtain ⟨next, hnext⟩ := exists_recv_eq h
  simp only [loggedRecv, hnext]

theorem loggedRecv_some {byte : UInt8} (h : (recv ctx).1 = some byte) (log : List UInt8) :
    loggedRecv recv (ctx, log) = (some byte, (recv ctx).2, log ++ [byte]) := by
  obtain ⟨next, hnext⟩ := exists_recv_eq h
  simp only [loggedRecv, hnext]

/-- The loop adds the bytes it receives to the burst. -/
theorem modbusPoll_logged (recv : ρ → Option UInt8 × ρ) (nowMs : UInt32) (n : Nat)
    (h : HoldsBurst s burst lastRxMs) (ctx : ρ) (log : List UInt8) :
    ∃ bytes, (modbusPoll (loggedRecv recv) nowMs n s (ctx, log)).recvCtx.2 = log ++ bytes ∧
      (n ≠ 0 → (recv ctx).1 ≠ none → bytes ≠ []) ∧ Polled s burst lastRxMs nowMs bytes
        (modbusPoll (loggedRecv recv) nowMs n s (ctx, log)).server := by
  induction n generalizing s burst lastRxMs ctx log with
  | zero => exact ⟨[], by simp [modbusPoll], nofun, by simpa [modbusPoll] using h, rfl, rfl, rfl⟩
  | succ n ih =>
      cases hbyte : (recv ctx).1 with
      | none =>
          simp only [modbusPoll, loggedRecv_none hbyte]
          exact ⟨[], by simp, fun _ hne => absurd rfl hne, by simpa using h, rfl, rfl, rfl⟩
      | some byte =>
          simp only [modbusPoll, loggedRecv_some hbyte]
          by_cases hfull : s.buf.length ≥ modbusServerMaxFrame
          · rw [if_pos hfull]
            rw [h.buf] at hfull
            refine ⟨[byte], rfl, fun _ _ => List.cons_ne_nil _ _,
              ⟨(burstTail_snoc_full hfull byte).symm, ?_⟩, rfl, rfl, rfl⟩
            exact fun hne => absurd rfl hne
          · rw [if_neg hfull]
            have hroom : (burstTail burst).length < modbusServerMaxFrame := by
              rw [← h.buf]
              exact Nat.lt_of_not_le hfull
            -- the rest of the loop starts with one byte more, received now
            have hstored : HoldsBurst { s with
                buf := s.buf ++ [byte]
                lastByteMs := nowMs
                rxByteCount := s.rxByteCount + 1 } (burst ++ [byte]) nowMs :=
              ⟨by rw [burstTail_snoc_room hroom, ← h.buf], fun _ => rfl⟩
            obtain ⟨bytes, hlog, -, hpolled⟩ := ih hstored (recv ctx).2 (log ++ [byte])
            refine ⟨byte :: bytes, by rw [hlog, List.append_assoc, List.singleton_append],
              fun _ _ => List.cons_ne_nil _ _, ?_, hpolled.silenceMs, hpolled.slaveAddr,
              hpolled.frameCount⟩
            have hholds := hpolled.holds
            rw [List.append_assoc, List.singleton_append, ite_self] at hholds
            rwa [if_neg (List.cons_ne_nil _ _)]

/-- A call that finds no byte passes the buffer on when the server has been silent long enough. -/
theorem modbusServerTask_none (log : List UInt8) (h : (recv ctx).1 = none)
    (hsilence : s.silenceMs.toNat < 2147483648) (nowMs : UInt32) :
    modbusServerTask (some (loggedRecv recv)) (ctx, log) s nowMs =
      (.ok,
        if s.buf ≠ [] ∧ s.silenceMs.toNat ≤ (nowMs - s.lastByteMs).toNat ∧
            (nowMs - s.lastByteMs).toNat < 2147483648 then
          modbusRxChunk { s with buf := [] } s.buf
        else s, (recv ctx).2, log) := by
  simp only [modbusServerTask, modbusPoll, loggedRecv_none h, Bool.false_eq_true, if_false,
    toInt32_ge_iff hsilence, gt_iff_lt, List.length_pos_iff, modbusUartEventCallback]
  split_ifs <;> rfl

/-- A call that finds a byte only adds to the burst: the last byte is of this call. -/
theorem modbusServerTask_some {byte : UInt8} (h : HoldsBurst s burst lastRxMs)
    (hbyte : (recv ctx).1 = some byte) (hpos : 1 ≤ s.silenceMs.toNat)
    (hsilence : s.silenceMs.toNat < 2147483648) (nowMs : UInt32) :
    ∃ bytes, bytes ≠ [] ∧
      (modbusServerTask (some (loggedRecv recv)) (ctx, []) s nowMs).2.2.2 = bytes ∧
      Polled s burst lastRxMs nowMs bytes
        (modbusServerTask (some (loggedRecv recv)) (ctx, []) s nowMs).2.1 := by
  obtain ⟨bytes, hlog, hne, hpolled⟩ := modbusPoll_logged recv nowMs 16 h ctx []
  have hne := hne (Nat.succ_ne_zero _) (by rw [hbyte]; exact Option.some_ne_none _)
  refine ⟨bytes, hne, ?_⟩
  -- whatever the buffer holds, its last byte is of this call
  have hquiet : ∀ s' : ModbusServer, Polled s burst lastRxMs nowMs bytes s' →
      ¬ (s'.buf.length > 0 ∧ (nowMs - s'.lastByteMs).toInt32 ≥ s'.silenceMs.toInt32) := by
    rintro s' hs' ⟨hbuf, hdue⟩
    have htime := hs'.holds.time (List.length_pos_iff.1 hbuf)
    rw [if_neg hne] at htime
    rw [toInt32_ge_iff (by rwa [hs'.silenceMs]), htime, hs'.silenceMs, UInt32.sub_self] at hdue
    exact absurd hdue.1 (Nat.not_le.2 hpos)
  simp only [modbusServerTask, if_neg (hquiet _ hpolled), ite_self]
  exact ⟨hlog, hpolled⟩

/-- The callback keeps the buffer, the settings and the time of the last byte. -/
theorem modbusRxChunk_keeps (s : ModbusServer) (data : List UInt8) :
    (modbusRxChunk s data).buf = s.buf ∧ (modbusRxChunk s data).silenceMs = s.silenceMs ∧
      (modbusRxChunk s data).slaveAddr = s.slaveAddr ∧
      (modbusRxChunk s data).lastByteMs = s.lastByteMs := by
  simp only [modbusRxChunk]
  split_ifs <;> exact ⟨rfl, rfl, rfl, rfl⟩

/-- The callback raises a request for the chunks that are one. -/
theorem raisesRequest_modbusRxChunk (s : ModbusServer) (data : List UInt8) :
    RaisesRequest s (modbusRxChunk { s with buf := [] } data) ↔ IsRequest s.slaveAddr data := by
  rw [IsRequest, ← modbusParseRequest_eq_ok_iff data s.slaveAddr s.request]
  simp only [modbusRxChunk, RaisesRequest]
  split_ifs with hok
  · refine iff_of_true ⟨(parseEvent_eq_request_iff _).2 hok, fun hsame => ?_⟩ hok
    have hcount : s.frameCount + 1 = s.frameCount := hsame
    grind
  · exact iff_of_false (fun hraise => hraise.2 rfl) hok

end Call

/-! ## Runs -/

section Runs

variable {recv : ρ → Option UInt8 × ρ} {t : BurstTrace} {slaveAddr : UInt8} {silenceMs : UInt32}

/-- The server of a run holds the tail of the current burst, with the settings of its start. -/
structure Follows (slaveAddr : UInt8) (silenceMs : UInt32) (t : BurstTrace) : Prop where
  holds : HoldsBurst t.server t.burst t.lastRxMs
  silenceMs : t.server.silenceMs = silenceMs
  slaveAddr : t.server.slaveAddr = slaveAddr

theorem follows_burstStart (slaveAddr : UInt8) (silenceMs : UInt32) :
    Follows slaveAddr silenceMs (burstStart slaveAddr silenceMs) :=
  ⟨⟨burstTail_nil.symm, fun hne => absurd rfl hne⟩, rfl, rfl⟩

theorem not_raisesRequest_of_frameCount {before after : ModbusServer}
    (h : after.frameCount = before.frameCount) : ¬ RaisesRequest before after :=
  fun hraise => hraise.2 h

/-- A call that finds a byte accepts nothing. -/
theorem pollCall_some (h : Follows slaveAddr silenceMs t) (hpos : 1 ≤ silenceMs.toNat)
    (hspan : silenceMs.toNat < 2147483648) {c : PollCall ρ} {byte : UInt8}
    (hbyte : (recv c.recvCtx).1 = some byte) :
    Follows slaveAddr silenceMs (pollCall recv t c) ∧
      (pollCall recv t c).accepted = t.accepted := by
  have hloud : ¬ t.Silent recv c := fun hsilent => by simp [hsilent.1] at hbyte
  obtain ⟨bytes, hne, hlog, hpolled⟩ := modbusServerTask_some h.holds hbyte
    (by rwa [h.silenceMs]) (by rwa [h.silenceMs]) c.nowMs
  have hcalm := not_raisesRequest_of_frameCount hpolled.frameCount
  refine ⟨⟨?_, hpolled.silenceMs.trans h.silenceMs, hpolled.slaveAddr.trans h.slaveAddr⟩, ?_⟩
  · simp only [pollCall, if_neg hloud, hlog]
    exact hpolled.holds
  · simp only [pollCall, if_neg hcalm]

/-- The server passes its buffer on at the silences that find it filled. -/
theorem passes_iff (h : Follows slaveAddr silenceMs t) {c : PollCall ρ}
    (hbyte : (recv c.recvCtx).1 = none) :
    (t.server.buf ≠ [] ∧ t.server.silenceMs.toNat ≤ (c.nowMs - t.server.lastByteMs).toNat ∧
        (c.nowMs - t.server.lastByteMs).toNat < 2147483648) ↔
      t.Silent recv c ∧ burstTail t.burst ≠ [] := by
  rw [← h.holds.buf]
  constructor
  · rintro ⟨hne, hdue⟩
    rw [h.holds.time hne] at hdue
    refine ⟨⟨hbyte, fun hnil => hne ?_, hdue⟩, hne⟩
    rw [h.holds.buf, hnil, burstTail_nil]
  · rintro ⟨⟨-, -, hdue⟩, hne⟩
    rw [h.holds.time hne]
    exact ⟨hne, hdue⟩

/-- A call that finds no byte accepts the burst when it is silent and the buffer holds a request. -/
theorem pollCall_none (h : Follows slaveAddr silenceMs t) (hspan : silenceMs.toNat < 2147483648)
    {c : PollCall ρ} (hbyte : (recv c.recvCtx).1 = none) :
    Follows slaveAddr silenceMs (pollCall recv t c) ∧
      (pollCall recv t c).accepted =
        if t.Silent recv c ∧ IsRequest slaveAddr (burstTail t.burst) then t.accepted ++ [t.burst]
        else t.accepted := by
  have htask := modbusServerTask_none [] hbyte (by rwa [h.silenceMs]) c.nowMs
  rw [if_congr (passes_iff h hbyte) rfl rfl, h.holds.buf] at htask
  by_cases hpass : t.Silent recv c ∧ burstTail t.burst ≠ []
  · -- the buffer goes to the callback
    rw [if_pos hpass] at htask
    obtain ⟨hbuf, hsilence, haddr, -⟩ :=
      modbusRxChunk_keeps { t.server with buf := [] } (burstTail t.burst)
    refine ⟨⟨?_, ?_, ?_⟩, ?_⟩ <;>
      simp only [pollCall, htask, if_pos hpass.1, List.append_nil, if_true]
    · exact ⟨hbuf.trans burstTail_nil.symm, fun hne => absurd hbuf hne⟩
    · exact hsilence.trans h.silenceMs
    · exact haddr.trans h.slaveAddr
    · have hraise := raisesRequest_modbusRxChunk t.server (burstTail t.burst)
      have hsame : IsRequest t.server.slaveAddr (burstTail t.burst) ↔
          t.Silent recv c ∧ IsRequest slaveAddr (burstTail t.burst) := by
        rw [h.slaveAddr, and_iff_right hpass.1]
      exact if_congr (hraise.trans hsame) rfl rfl
  · -- nothing to pass on: a silence finds the buffer empty
    rw [if_neg hpass] at htask
    have hrequest : ¬ (t.Silent recv c ∧ IsRequest slaveAddr (burstTail t.burst)) := by
      rintro ⟨hsilent, hlen, -⟩
      exact hpass ⟨hsilent, fun hnil => by rw [hnil] at hlen; cases hlen⟩
    have hcalm := not_raisesRequest_of_frameCount (Eq.refl t.server.frameCount)
    refine ⟨⟨⟨?_, ?_⟩, ?_, ?_⟩, ?_⟩ <;>
      simp only [pollCall, htask, if_neg hrequest, if_neg hcalm, List.append_nil, if_true]
    · by_cases hsilent : t.Silent recv c
      · rw [if_pos hsilent, h.holds.buf, burstTail_nil]
        exact not_not.1 fun hne => hpass ⟨hsilent, hne⟩
      · rw [if_neg hsilent, h.holds.buf]
    · exact h.holds.time
    · exact h.silenceMs
    · exact h.slaveAddr

/-- Every call keeps the server at the tail of the burst, and accepts a burst when it is silent and
that tail is a request. -/
theorem pollCall_spec (recv : ρ → Option UInt8 × ρ) (h : Follows slaveAddr silenceMs t)
    (hpos : 1 ≤ silenceMs.toNat) (hspan : silenceMs.toNat < 2147483648) (c : PollCall ρ) :
    Follows slaveAddr silenceMs (pollCall recv t c) ∧
      (pollCall recv t c).accepted =
        if t.Silent recv c ∧ IsRequest slaveAddr (burstTail t.burst) then t.accepted ++ [t.burst]
        else t.accepted := by
  cases hbyte : (recv c.recvCtx).1 with
  | none => exact pollCall_none h hspan hbyte
  | some byte =>
      rw [if_neg fun hc => by simp [hc.1.1] at hbyte]
      exact pollCall_some h hpos hspan hbyte

/-- The call does not end an over-long burst whose tail is a request. -/
def NoRequestTail (slaveAddr : UInt8) (recv : ρ → Option UInt8 × ρ) (t : BurstTrace)
    (c : PollCall ρ) : Prop :=
  t.Silent recv c → modbusServerMaxFrame < t.burst.length →
    ¬ IsRequest slaveAddr (burstTail t.burst)

/-- In every run, only whole bursts that are one valid request are accepted up to the first silence
that ends an over-long burst with a request as its tail, and no longer. -/
theorem polled_requests_iff (recv : ρ → Option UInt8 × ρ) (slaveAddr : UInt8) (silenceMs : UInt32)
    (hpos : 1 ≤ silenceMs.toNat) (hspan : silenceMs.toNat < 2147483648)
    (calls : List (PollCall ρ)) :
    AlwaysAlong (pollStep recv) (OnlyWholeBursts slaveAddr) (burstStart slaveAddr silenceMs)
        calls ↔
      StepsMeet (pollStep recv) (NoRequestTail slaveAddr recv) (burstStart slaveAddr silenceMs)
        calls := by
  refine alwaysAlong_iff_stepsMeet
    (I := fun t => Follows slaveAddr silenceMs t ∧ OnlyWholeBursts slaveAddr t)
    (fun t ht => ht.2) ?_ ?_ ⟨follows_burstStart slaveAddr silenceMs, nofun⟩
  · rintro t c ⟨hfollows, honly⟩ hmeets
    obtain ⟨hfollows', haccepted⟩ := pollCall_spec recv hfollows hpos hspan c
    refine ⟨_, rfl, hfollows', fun burst hburst => ?_⟩
    rw [haccepted] at hburst
    split_ifs at hburst with hraise
    · rcases List.mem_append.1 hburst with hold | hnew
      · exact honly burst hold
      · -- a short burst is its own tail
        obtain rfl := List.mem_singleton.1 hnew
        have hshort := not_lt.1 fun hlong => hmeets hraise.1 hlong hraise.2
        rw [← burstTail_of_le hshort]
        exact hraise.2
    · exact honly burst hburst
  · rintro t c t' ⟨hfollows, -⟩ hbad hstep honly
    obtain ⟨-, haccepted⟩ := pollCall_spec recv hfollows hpos hspan c
    obtain rfl := Except.ok.inj hstep
    simp only [NoRequestTail, not_forall, not_not] at hbad
    obtain ⟨hsilent, hlong, hrequest⟩ := hbad
    rw [if_pos ⟨hsilent, hrequest⟩] at haccepted
    obtain ⟨hlen, -⟩ := honly t.burst (by rw [haccepted]; simp)
    rw [hlen] at hlong
    exact absurd hlong (by decide)

/-- A source that holds the bytes on the line. -/
def popByte : List UInt8 → Option UInt8 × List UInt8
  | [] => (none, [])
  | byte :: bytes => (some byte, bytes)

/-- 256 bytes in 16 calls, the byte that discards them, a valid request right after it, and a
silence of 5 ms. -/
def overlongBurst : List (PollCall (List UInt8)) :=
  List.replicate 16 ⟨0, List.replicate 16 0⟩ ++
    [⟨0, [0]⟩, ⟨0, [0x01, 0x03, 0x00, 0x03, 0x00, 0x01, 0x74, 0x0A]⟩, ⟨5, []⟩]

/-- The tail of a burst of 265 bytes raises a request. -/
theorem polled_requests_overlong :
    ¬ AlwaysAlong (pollStep popByte) (OnlyWholeBursts 1) (burstStart 1 5) overlongBurst := by
  intro halong
  obtain ⟨t, hrun, honly⟩ := alwaysAlong_iff_prefix.1 halong _ List.prefix_rfl
  have haccepted : (run (pollStep popByte) (burstStart 1 5) overlongBurst).toOption.map
      (fun t => t.accepted.map List.length) = some [265] := by decide +kernel
  rw [hrun] at haccepted
  have hlengths : t.accepted.map List.length = [265] := Option.some.inj haccepted
  obtain ⟨burst, hburst, hlen⟩ := List.mem_map.1 (hlengths ▸ List.mem_singleton_self 265)
  have h8 := (honly burst hburst).1
  rw [hlen] at h8
  cases h8

/-- A request in one piece, and a silence of 5 ms. -/
def singleRequest : List (PollCall (List UInt8)) :=
  [⟨0, [0x01, 0x03, 0x00, 0x03, 0x00, 0x01, 0x74, 0x0A]⟩, ⟨5, []⟩]

/-- It is accepted, and nothing else is. -/
theorem polled_requests_single :
    AlwaysAlong (pollStep popByte) (OnlyWholeBursts 1) (burstStart 1 5) singleRequest ∧
      (run (pollStep popByte) (burstStart 1 5) singleRequest).toOption.map BurstTrace.accepted =
        some [[0x01, 0x03, 0x00, 0x03, 0x00, 0x01, 0x74, 0x0A]] := by
  refine ⟨(polled_requests_iff popByte 1 5 (by decide) (by decide) _).2 ⟨?_, ?_⟩,
    by decide +kernel⟩
  · exact fun _ hlong => absurd hlong (by decide)
  · rintro t ⟨⟩
    exact ⟨fun _ hlong => absurd hlong (by decide +kernel), fun _ _ => trivial⟩

end Runs

end ClimateNode.Service
