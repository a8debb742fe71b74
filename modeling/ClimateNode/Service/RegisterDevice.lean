import ClimateNode.Machine.Observation
import ClimateNode.Service.ModbusFrames
import ClimateNode.Service.ModbusRegs

/-!
# A register device

What a node is for the master of the bus: six status values that it reports, the time since it
started, and three configuration registers. It answers a query at once, from what it holds at that
moment, and a stored value stays until the next one is stored.

The device is this development's statement of the purpose of the firmware. It knows no frames in
pieces, no event field and no application behind the registers.
-/

set_option autoImplicit false

namespace ClimateNode.Service

open ClimateNode.Machine

/-- A configuration register. -/
inductive CfgReg where
  | marginOn
  | marginOff
  | sampleMs
  deriving DecidableEq, Repr

/-- The address of a configuration register. -/
def CfgReg.addr : CfgReg → UInt16
  | .marginOn => mbCfgMarginOn
  | .marginOff => mbCfgMarginOff
  | .sampleMs => mbCfgSampleMs

/-- The configuration register at an address. -/
def CfgReg.ofAddr (addr : UInt16) : Option CfgReg :=
  if addr = mbCfgMarginOn then some .marginOn
  else if addr = mbCfgMarginOff then some .marginOff
  else if addr = mbCfgSampleMs then some .sampleMs
  else none

/-- The values a configuration register takes: a period is not 0. -/
def CfgReg.Accepts (reg : CfgReg) (value : UInt16) : Prop := reg = .sampleMs → value ≠ 0

instance (reg : CfgReg) (value : UInt16) : Decidable (reg.Accepts value) :=
  inferInstanceAs (Decidable (_ → _))

/-- The values of the status registers, in the order of their addresses. -/
structure Telemetry where
  tempFilt : UInt16
  rh : UInt16
  dewPoint : UInt16
  relayState : UInt16
  devStatus : UInt16
  errCount : UInt16
  deriving DecidableEq, Repr

/-- The device. -/
structure RegisterDevice where
  telemetry : Telemetry
  startedMs : UInt32
  cfg : CfgReg → UInt16

/-- What a master asks. -/
inductive RegisterQuery where
  | read (start quantity : UInt16)
  | write (regAddr value : UInt16)
  deriving DecidableEq, Repr

/-- What the device answers. -/
inductive RegisterReply where
  | values (vals : List UInt16)
  | stored
  | refused (code : UInt8)
  deriving DecidableEq, Repr

namespace RegisterDevice

/-- The time since the start. -/
def uptime (dev : RegisterDevice) (nowMs : UInt32) : UInt32 :=
  if nowMs < dev.startedMs then 0 else nowMs - dev.startedMs

/-- The status registers from address 0 on: the telemetry, and the halves of the uptime. -/
def status (dev : RegisterDevice) (nowMs : UInt32) : List UInt16 :=
  [dev.telemetry.tempFilt, dev.telemetry.rh, dev.telemetry.dewPoint, dev.telemetry.relayState,
    dev.telemetry.devStatus, dev.telemetry.errCount, (dev.uptime nowMs).toUInt16,
    (dev.uptime nowMs >>> 16).toUInt16]

/-- The value at an address. -/
def lookup (dev : RegisterDevice) (nowMs : UInt32) (addr : UInt16) : Option UInt16 :=
  match CfgReg.ofAddr addr with
  | some reg => some (dev.cfg reg)
  | none => (dev.status nowMs)[addr.toNat]?

/-- The values at `n` addresses from `start` on; there are none beyond 65535. -/
def lookupRange (dev : RegisterDevice) (nowMs : UInt32) (start n : Nat) : Option (List UInt16) :=
  (List.range' start n).mapM fun addr =>
    if addr < 65536 then dev.lookup nowMs (UInt16.ofNat addr) else none

/-- The device with a value stored, if there is a configuration register that takes it. -/
def store (dev : RegisterDevice) (regAddr value : UInt16) : Option RegisterDevice :=
  match CfgReg.ofAddr regAddr with
  | some reg =>
      if reg.Accepts value then some { dev with cfg := Function.update dev.cfg reg value } else none
  | none => none

/-- The answer to a query at the time `nowMs`. -/
def serve (dev : RegisterDevice) (nowMs : UInt32) : RegisterQuery → RegisterDevice × RegisterReply
  | .read start quantity =>
      (dev, if 1 ≤ quantity.toNat ∧ quantity.toNat ≤ 125 then
        (dev.lookupRange nowMs start.toNat quantity.toNat).elim
          (.refused modbusExIllegalDataAddr) .values
        else .refused modbusExIllegalDataVal)
  | .write regAddr value =>
      match dev.store regAddr value with
      | some dev' => (dev', .stored)
      | none => (dev, .refused modbusExIllegalDataAddr)

end RegisterDevice

/-! ## Frames -/

/-- The query that a request carries. -/
def registerQuery (req : ModbusRequest) : Option RegisterQuery :=
  match req.data with
  | [d0, d1, d2, d3] =>
      if req.function = 0x03 then some (.read (be16 d0 d1) (be16 d2 d3))
      else if req.function = 0x06 then some (.write (be16 d0 d1) (be16 d2 d3))
      else none
  | _ => none

/-- The frame that carries a reply: the values behind their count, the request's own bytes, or the
code behind the function with bit 7 set. -/
def replyFrame (req : ModbusRequest) : RegisterReply → List UInt8
  | .values vals =>
      responseBytes req.slaveAddr req.function
        (UInt8.ofNat (vals.length * 2) :: vals.flatMap putBe16)
  | .stored => responseBytes req.slaveAddr req.function req.data
  | .refused code => responseBytes req.slaveAddr (req.function ||| 0x80) [code]

/-- What happens at the device: new values to report, or a request that it has to answer. -/
inductive DeviceEvent where
  | report (telemetry : Telemetry)
  | request (nowMs : UInt32) (req : ModbusRequest)
  deriving DecidableEq, Repr

/-- The request of an event. -/
def DeviceEvent.request? : DeviceEvent → Option ModbusRequest
  | .report _ => none
  | .request _ req => some req

/-- The device takes an event. A request is answered with one frame. -/
def deviceStep (dev : RegisterDevice) : DeviceEvent → RegisterDevice × List (List UInt8)
  | .report telemetry => ({ dev with telemetry := telemetry }, [])
  | .request nowMs req =>
      match registerQuery req with
      | some query =>
          let r := dev.serve nowMs query
          (r.1, [replyFrame req r.2])
      | none => (dev, [])

/-- A request with one of the two functions and four data bytes carries a query. -/
theorem exists_registerQuery {req : ModbusRequest} (h : WellShaped req) :
    ∃ query, registerQuery req = some query := by
  obtain ⟨slaveAddr, function, data⟩ := req
  obtain ⟨hfun, hlen⟩ := h
  match data, hlen with
  | [d0, d1, d2, d3], _ =>
      rcases hfun with hfun | hfun
      · obtain rfl : function = 0x03 := hfun
        exact ⟨_, rfl⟩
      · obtain rfl : function = 0x06 := hfun
        exact ⟨_, rfl⟩

/-- Only function 03 reads. -/
theorem function_of_read {req : ModbusRequest} {start quantity : UInt16}
    (h : registerQuery req = some (.read start quantity)) : req.function = 0x03 := by
  unfold registerQuery at h
  split at h
  · split_ifs at h with hfun hwrite
    · exact hfun
    · cases h
  · cases h

/-! ## Stored values stay -/

section Stored

theorem CfgReg.ofAddr_addr (reg : CfgReg) : CfgReg.ofAddr reg.addr = some reg := by
  cases reg <;> rfl

theorem CfgReg.ofAddr_eq_some_iff {addr : UInt16} {reg : CfgReg} :
    CfgReg.ofAddr addr = some reg ↔ addr = reg.addr := by
  constructor
  · intro h
    unfold CfgReg.ofAddr at h
    split_ifs at h with h₁ h₂ h₃
    · cases h; exact h₁
    · cases h; exact h₂
    · cases h; exact h₃
  · rintro rfl
    exact ofAddr_addr reg

/-- The value that an event stores in a register. -/
def storedIn (reg : CfgReg) : DeviceEvent → Option UInt16
  | .report _ => none
  | .request _ req =>
      match registerQuery req with
      | some (.write regAddr value) =>
          if CfgReg.ofAddr regAddr = some reg ∧ reg.Accepts value then some value else none
      | _ => none

/-- The status values that an event reports. -/
def reportedIn : DeviceEvent → Option Telemetry
  | .report telemetry => some telemetry
  | .request _ _ => none

/-- The value stored last, or the one from before. -/
def lastStored (reg : CfgReg) (initial : UInt16) (events : List DeviceEvent) : UInt16 :=
  ((events.filterMap (storedIn reg)).getLast?).getD initial

/-- The status values reported last, or the ones from before. -/
def lastReport (initial : Telemetry) (events : List DeviceEvent) : Telemetry :=
  ((events.filterMap reportedIn).getLast?).getD initial

/-- The device that holds what was stored and reported last. -/
def RegisterDevice.holding (dev : RegisterDevice) (events : List DeviceEvent) : RegisterDevice where
  telemetry := lastReport dev.telemetry events
  startedMs := dev.startedMs
  cfg := fun reg => lastStored reg (dev.cfg reg) events

/-- A query leaves the status side of the device alone. -/
theorem serve_keeps (dev : RegisterDevice) (nowMs : UInt32) (query : RegisterQuery) :
    (dev.serve nowMs query).1.telemetry = dev.telemetry ∧
      (dev.serve nowMs query).1.startedMs = dev.startedMs := by
  cases query with
  | read start quantity => exact ⟨rfl, rfl⟩
  | write regAddr value =>
      simp only [RegisterDevice.serve, RegisterDevice.store]
      cases CfgReg.ofAddr regAddr with
      | none => exact ⟨rfl, rfl⟩
      | some reg =>
          by_cases hacc : reg.Accepts value
          · simp only [hacc, if_true, and_self]
          · simp only [hacc, if_false, and_self]

theorem startedMs_deviceStep (dev : RegisterDevice) (event : DeviceEvent) :
    (deviceStep dev event).1.startedMs = dev.startedMs := by
  cases event with
  | report telemetry => rfl
  | request nowMs req =>
      simp only [deviceStep]
      cases registerQuery req with
      | none => rfl
      | some query => exact (serve_keeps dev nowMs query).2

/-- One event leaves what it reports. -/
theorem telemetry_deviceStep (dev : RegisterDevice) (event : DeviceEvent) :
    (deviceStep dev event).1.telemetry = (reportedIn event).getD dev.telemetry := by
  cases event with
  | report telemetry => rfl
  | request nowMs req =>
      simp only [deviceStep]
      cases registerQuery req with
      | none => rfl
      | some query => exact (serve_keeps dev nowMs query).1

/-- One event leaves what it stores, and every other register as it was. -/
theorem cfg_deviceStep (dev : RegisterDevice) (event : DeviceEvent) (reg : CfgReg) :
    (deviceStep dev event).1.cfg reg = (storedIn reg event).getD (dev.cfg reg) := by
  cases event with
  | report telemetry => rfl
  | request nowMs req =>
      simp only [deviceStep, storedIn]
      cases hquery : registerQuery req with
      | none => rfl
      | some query =>
          cases query with
          | read start quantity => rfl
          | write regAddr value =>
              simp only [RegisterDevice.serve, RegisterDevice.store]
              cases haddr : CfgReg.ofAddr regAddr with
              | none => simp
              | some written =>
                  by_cases hsame : written = reg
                  · subst hsame
                    by_cases hacc : written.Accepts value
                    · simp [hacc]
                    · simp [hacc]
                  · by_cases hacc : written.Accepts value
                    · simp [hacc, hsame, Function.update_of_ne (Ne.symm hsame)]
                    · simp [hacc, hsame]

/-- One element more is the last one when it counts. -/
theorem getLast?_filterMap_snoc {α β : Type} (f : α → Option β) (initial : β) (xs : List α)
    (x : α) :
    (((xs ++ [x]).filterMap f).getLast?).getD initial =
      (f x).getD (((xs.filterMap f).getLast?).getD initial) := by
  rw [List.filterMap_append]
  cases hx : f x with
  | none => simp [hx]
  | some y => simp [hx]

/-- After any events the device holds what was stored and reported last. -/
theorem after_deviceStep (dev : RegisterDevice) (events : List DeviceEvent) :
    after deviceStep dev events = dev.holding events := by
  induction events using List.reverseRecOn with
  | nil => rfl
  | append_singleton events event ih =>
      have hstarted := startedMs_deviceStep (dev.holding events) event
      have htelemetry := telemetry_deviceStep (dev.holding events) event
      have hcfg := cfg_deviceStep (dev.holding events) event
      rw [after_append, after_cons, after_nil, ih]
      generalize (deviceStep (dev.holding events) event).1 = next at hstarted htelemetry hcfg
      obtain ⟨telemetry, startedMs, cfg⟩ := next
      rw [RegisterDevice.holding, RegisterDevice.mk.injEq]
      refine ⟨?_, hstarted, ?_⟩
      · exact htelemetry.trans (getLast?_filterMap_snoc reportedIn _ events event).symm
      · funext reg
        exact (hcfg reg).trans (getLast?_filterMap_snoc (storedIn reg) _ events event).symm

end Stored

/-! ## The addresses -/

section Addresses

/-- The addresses with a register: the eight status registers and the configuration. -/
def HasRegister (addr : Nat) : Prop := addr < 8 ∨ ∃ reg : CfgReg, addr = reg.addr.toNat

theorem HasRegister.lt {addr : Nat} (h : HasRegister addr) : addr < 65536 := by
  rcases h with h | ⟨reg, rfl⟩
  · omega
  · exact reg.addr.toNat_lt

theorem isSome_lookup_iff (dev : RegisterDevice) (nowMs : UInt32) (addr : UInt16) :
    (dev.lookup nowMs addr).isSome = true ↔ HasRegister addr.toNat := by
  rw [RegisterDevice.lookup]
  cases hreg : CfgReg.ofAddr addr with
  | some reg =>
      have haddr := CfgReg.ofAddr_eq_some_iff.1 hreg
      exact iff_of_true rfl (Or.inr ⟨reg, congrArg UInt16.toNat haddr⟩)
  | none =>
      have hcfg : ¬ ∃ reg : CfgReg, addr.toNat = reg.addr.toNat := by
        rintro ⟨reg, haddr⟩
        rw [UInt16.toNat_inj.1 haddr, CfgReg.ofAddr_addr] at hreg
        cases hreg
      show ((dev.status nowMs)[addr.toNat]?).isSome = true ↔ _
      rw [HasRegister, or_iff_left hcfg, Option.isSome_iff_ne_none, ne_eq,
        List.getElem?_eq_none_iff, Nat.not_le]
      exact Iff.rfl

/-- A range can be read when every address in it has a register. -/
theorem isSome_lookupRange_iff (dev : RegisterDevice) (nowMs : UInt32) (start n : Nat) :
    (dev.lookupRange nowMs start n).isSome = true ↔ ∀ k < n, HasRegister (start + k) := by
  induction n generalizing start with
  | zero => exact iff_of_true rfl fun k hk => absurd hk (Nat.not_lt_zero k)
  | succ n ih =>
      have hhead : (if start < 65536 then dev.lookup nowMs (UInt16.ofNat start) else none).isSome =
          true ↔ HasRegister start := by
        by_cases hlt : start < 65536
        · have hback : (UInt16.ofNat start).toNat = start := UInt16.toNat_ofNat_of_lt' hlt
          rw [if_pos hlt, isSome_lookup_iff, hback]
        · rw [if_neg hlt]
          exact iff_of_false Bool.false_ne_true fun h => hlt h.lt
      have hsplit : (∀ k < n + 1, HasRegister (start + k)) ↔
          HasRegister start ∧ ∀ k < n, HasRegister (start + 1 + k) := by
        constructor
        · exact fun h => ⟨h 0 (Nat.succ_pos n), fun k hk => by
            have hnext := h (k + 1) (Nat.succ_lt_succ hk)
            rwa [Nat.add_comm k, ← Nat.add_assoc] at hnext⟩
        · rintro ⟨hstart, hrest⟩ k hk
          cases k with
          | zero => exact hstart
          | succ k =>
              have hnext := hrest k (Nat.lt_of_succ_lt_succ hk)
              rwa [Nat.add_assoc, Nat.add_comm 1] at hnext
      rw [hsplit, ← hhead, ← ih, RegisterDevice.lookupRange, RegisterDevice.lookupRange,
        List.range'_succ, List.mapM_cons]
      cases (if start < 65536 then dev.lookup nowMs (UInt16.ofNat start) else none) with
      | none => simp
      | some val =>
          cases (List.range' (start + 1) n).mapM fun addr =>
              if addr < 65536 then dev.lookup nowMs (UInt16.ofNat addr) else none with
          | none => simp
          | some rest => simp

end Addresses

end ClimateNode.Service
