import ClimateNode.Service.ModbusFrames
import ClimateNode.Service.ModbusRegs

/-!
# Reading registers into a buffer

`mb_regs_read` as it runs on its output buffer. The loop computes each address modulo `2 ^ 16`,
writes two bytes for it and stops at the first address without a register, with the bytes before it
written. `mbRegsReadInto` keeps the buffer, `mbRegsRead` only the bytes of a read that succeeds, and
`mbRegsReadInto_spec` relates them. A range that runs past address 65535 contains that address,
which has no register, so the wrapped addresses never count (`forall_isSome_regValue_iff`).
-/

set_option autoImplicit false

namespace ClimateNode.Service

open ClimateNode.Machine

/-- The registers of the map, in the order of the header. -/
def registerAddresses : List UInt16 :=
  [mbRegTempFilt, mbRegRh, mbRegDewPoint, mbRelayState, mbDevStatus, mbErrCount, mbUptimeLo,
    mbUptimeHi, mbCfgMarginOn, mbCfgMarginOff, mbCfgSampleMs]

/-- `a` is the address of a register; addresses are unbounded here. -/
def IsMapped (a : Nat) : Prop := ∃ addr ∈ registerAddresses, addr.toNat = a

/-- The loop of `mb_regs_read` from the index `i` on, `n` registers to go. The output starts at the
index `base` of the array `outData`. -/
def mbRegsReadLoop (regs : ModbusRegMap) (startAddr : UInt16) {size : Nat}
    (outData : Vector UInt8 size) (base i : Nat) : Nat → Checked (Bool × Vector UInt8 size)
  | 0 => pure (true, outData)
  | n + 1 =>
      match regValue regs (startAddr + UInt16.ofNat i) with
      | none => pure (false, outData)
      | some val => do
          let outData ← writeAt outData (base + i * 2) (val >>> 8).toUInt8
          let outData ← writeAt outData (base + i * 2 + 1) (val &&& 0xFF).toUInt8
          mbRegsReadLoop regs startAddr outData base (i + 1) n

/-- `mb_regs_read` with the output at the index `base` of the array `outData`: what it returns and
the array afterwards. -/
def mbRegsReadInto (regs : ModbusRegMap) (startAddr quantity : UInt16) {size : Nat}
    (outData : Vector UInt8 size) (base outCapacity : Nat) : Checked (Bool × Vector UInt8 size) :=
  if quantity = 0 ∨ quantity > 125 then pure (false, outData)
  else if outCapacity < quantity.toNat * 2 then pure (false, outData)
  else mbRegsReadLoop regs startAddr outData base 0 quantity.toNat

/-- The two bytes of a register. -/
def regBytes (val : UInt16) : Vector UInt8 2 := #v[(val >>> 8).toUInt8, (val &&& 0xFF).toUInt8]

/-! ## Mapped addresses -/

section Mapped

/-- One case of a `switch` that gives values to some inputs. -/
theorem isSome_ite {α : Type} (p : Prop) [Decidable p] (x : α) (o : Option α) :
    (if p then some x else o).isSome = true ↔ p ∨ o.isSome = true := by
  by_cases h : p
  · simp [h]
  · simp [h]

variable (regs : ModbusRegMap)

theorem isSome_regValue_iff (addr : UInt16) :
    (regValue regs addr).isSome = true ↔ addr ∈ registerAddresses := by
  simp only [regValue, isSome_ite, registerAddresses, List.mem_cons, List.not_mem_nil,
    Option.isSome_none, Bool.false_eq_true, or_false]

theorem isSome_regValue_iff_isMapped (addr : UInt16) :
    (regValue regs addr).isSome = true ↔ IsMapped addr.toNat := by
  rw [isSome_regValue_iff]
  constructor
  · exact fun h => ⟨addr, h, rfl⟩
  · rintro ⟨other, hmem, heq⟩
    rwa [UInt16.toNat_inj.1 heq] at hmem

/-- The last address has no register. -/
theorem not_isMapped_of_ge {a : Nat} (h : 65535 ≤ a) : ¬ IsMapped a := by
  rintro ⟨addr, hmem, rfl⟩
  have hsmall : (registerAddresses.all fun addr => addr.toNat < 65535) = true := by decide
  have hlt := of_decide_eq_true (List.all_eq_true.1 hsmall addr hmem)
  exact absurd hlt (Nat.not_lt.2 h)

theorem toNat_add_ofNat_of_lt {addr : UInt16} {k : Nat} (h : addr.toNat + k < 65536) :
    (addr + UInt16.ofNat k).toNat = addr.toNat + k := by
  rw [UInt16.toNat_add, UInt16.toNat_ofNat', Nat.mod_eq_of_lt (a := k) (by omega)]
  exact Nat.mod_eq_of_lt h

/-- The wrapped addresses of a range all have registers exactly when the unbounded ones do. -/
theorem forall_isSome_regValue_iff (addr : UInt16) (n : Nat) :
    (∀ k < n, (regValue regs (addr + UInt16.ofNat k)).isSome = true) ↔
      ∀ k < n, IsMapped (addr.toNat + k) := by
  have hsame : ∀ k, addr.toNat + k < 65536 →
      ((regValue regs (addr + UInt16.ofNat k)).isSome = true ↔ IsMapped (addr.toNat + k)) := by
    intro k hk
    rw [isSome_regValue_iff_isMapped, toNat_add_ofNat_of_lt hk]
  have hlt := addr.toNat_lt
  constructor
  · intro h k hk
    -- a range that wraps contains the last address
    have hfits : addr.toNat + k < 65536 := by
      by_contra hwrap
      have hlast := h (65535 - addr.toNat) (by omega)
      rw [hsame _ (by omega)] at hlast
      exact not_isMapped_of_ge (by omega) hlast
    exact (hsame k hfits).1 (h k hk)
  · intro h k hk
    have hfits : addr.toNat + k < 65536 := by
      by_contra hwrap
      exact not_isMapped_of_ge (by omega) (h k hk)
    exact (hsame k hfits).2 (h k hk)

end Mapped

/-! ## The bytes of a range -/

section Range

variable {regs : ModbusRegMap}

/-- A range can be read when each of its registers can. -/
theorem isSome_mbRegsReadFrom_iff (addr : UInt16) (n : Nat) :
    (mbRegsReadFrom regs addr n).isSome = true ↔
      ∀ k < n, (regValue regs (addr + UInt16.ofNat k)).isSome = true := by
  induction n generalizing addr with
  | zero => exact iff_of_true rfl fun k hk => absurd hk (Nat.not_lt_zero k)
  | succ n ih =>
      have hzero : addr + UInt16.ofNat 0 = addr := UInt16.add_zero addr
      cases hval : regValue regs addr with
      | none =>
          refine iff_of_false (by simp [mbRegsReadFrom_none hval]) fun h => ?_
          have := h 0 (Nat.succ_pos n)
          rw [hzero, hval] at this
          cases this
      | some val =>
          rw [mbRegsReadFrom_some hval, Option.isSome_map, ih]
          constructor
          · intro h k hk
            cases k with
            | zero =>
                rw [hzero, hval]
                rfl
            | succ k =>
                rw [add_ofNat_succ]
                exact h k (Nat.lt_of_succ_lt_succ hk)
          · intro h k hk
            rw [← add_ofNat_succ]
            exact h (k + 1) (Nat.succ_lt_succ hk)

/-- The bytes of a range are those of its registers, one after the other. -/
theorem mbRegsReadFrom_eq_flatMap {addr : UInt16} {n : Nat} {bytes : List UInt8}
    (h : mbRegsReadFrom regs addr n = some bytes) :
    bytes = (List.range n).flatMap fun k =>
      putBe16 ((regValue regs (addr + UInt16.ofNat k)).getD 0) := by
  induction n generalizing addr bytes with
  | zero =>
      cases h
      rfl
  | succ n ih =>
      cases hval : regValue regs addr with
      | none =>
          rw [mbRegsReadFrom_none hval] at h
          cases h
      | some val =>
          rw [mbRegsReadFrom_some hval] at h
          obtain ⟨rest, hrest, rfl⟩ := Option.map_eq_some_iff.1 h
          have hzero : addr + UInt16.ofNat 0 = addr := UInt16.add_zero addr
          rw [List.range_succ_eq_map, List.flatMap_cons, List.flatMap_map, hzero, hval, ih hrest]
          simp only [Nat.succ_eq_add_one, add_ofNat_succ, Option.getD_some]

/-- The bytes of a read that succeeds are those of its loop. -/
theorem mbRegsReadFrom_of_mbRegsRead {startAddr quantity : UInt16} {outCapacity : Nat}
    {bytes : List UInt8} (h : mbRegsRead regs startAddr quantity outCapacity = some bytes) :
    mbRegsReadFrom regs startAddr quantity.toNat = some bytes := by
  rw [mbRegsRead] at h
  split_ifs at h
  exact h

theorem length_of_mbRegsReadFrom {addr : UInt16} {n : Nat} {bytes : List UInt8}
    (h : mbRegsReadFrom regs addr n = some bytes) : bytes.length = n * 2 := by
  rw [mbRegsReadFrom_eq_flatMap h]
  simp [putBe16]

theorem length_of_mbRegsRead {startAddr quantity : UInt16} {outCapacity : Nat}
    {bytes : List UInt8} (h : mbRegsRead regs startAddr quantity outCapacity = some bytes) :
    bytes.length = quantity.toNat * 2 :=
  length_of_mbRegsReadFrom (mbRegsReadFrom_of_mbRegsRead h)

end Range

/-! ## The buffer -/

section Buffer

variable {size : Nat}

variable (regs : ModbusRegMap) (startAddr : UInt16) {outData : Vector UInt8 size}
  {written : List UInt8}

/-- The loop returns, touches nothing behind its range, and either writes the bytes of the whole
range or fails. -/
theorem mbRegsReadLoop_spec {base i n : Nat} (h : Starts outData written)
    (hi : written.length = base + i * 2) (hroom : base + (i + n) * 2 ≤ size) :
    ∃ out', mbRegsReadLoop regs startAddr outData base i n =
        .ok ((mbRegsReadFrom regs (startAddr + UInt16.ofNat i) n).isSome, out') ∧
      UnchangedFrom (base + (i + n) * 2) outData out' ∧
      ∀ bytes, mbRegsReadFrom regs (startAddr + UInt16.ofNat i) n = some bytes →
        Starts out' (written ++ bytes) := by
  induction n generalizing outData written i with
  | zero =>
      refine ⟨outData, rfl, .refl _ _, fun bytes hbytes => ?_⟩
      cases hbytes
      rwa [List.append_nil]
  | succ n ih =>
      cases hval : regValue regs (startAddr + UInt16.ofNat i) with
      | none =>
          -- the bytes written so far stay in the buffer
          have hnone := mbRegsReadFrom_none hval n
          refine ⟨outData, ?_, .refl _ _, fun bytes hbytes => ?_⟩
          · rw [mbRegsReadLoop, hval, hnone]
            rfl
          · rw [hnone] at hbytes
            cases hbytes
      | some val =>
          have hnext : startAddr + UInt16.ofNat i + 1 = startAddr + UInt16.ofNat (i + 1) := by
            rw [UInt16.ofNat_add, UInt16.add_assoc]
            rfl
          obtain ⟨b₁, h₁, hs₁⟩ := writeAt_starts h hi (by omega) (val >>> 8).toUInt8
          obtain ⟨b₂, h₂, hs₂⟩ := writeAt_starts hs₁ (i := base + i * 2 + 1) (by simp [hi])
            (by omega) (val &&& 0xFF).toUInt8
          obtain ⟨out', hout, hkept, hall⟩ := ih (i := i + 1) hs₂ (by simp [hi]; omega) (by omega)
          have hbound : base + (i + 1 + n) * 2 = base + (i + (n + 1)) * 2 := by omega
          rw [hbound] at hkept
          have hread := mbRegsReadFrom_some hval n
          rw [hnext] at hread
          refine ⟨out', ?_, ?_, fun bytes hbytes => ?_⟩
          · rw [hread, Option.isSome_map, ← hout, mbRegsReadLoop, hval]
            simp only [h₁, h₂, checked_ok_bind]
          · refine ((unchangedFrom_of_writeAt ?_ h₁).trans (unchangedFrom_of_writeAt ?_ h₂)).trans
              hkept
            · omega
            · omega
          · rw [hread] at hbytes
            obtain ⟨rest, hrest, rfl⟩ := Option.map_eq_some_iff.1 hbytes
            have := hall rest hrest
            rwa [List.append_assoc, List.append_assoc] at this

/-- `mb_regs_read` with its output right behind the bytes written so far: it returns whether the
range can be read, touches nothing behind it and writes its bytes when it can. -/
theorem mbRegsReadInto_spec (quantity : UInt16) (base outCapacity : Nat)
    (h : Starts outData written) (hbase : written.length = base)
    (hroom : base + outCapacity ≤ size) :
    ∃ out', mbRegsReadInto regs startAddr quantity outData base outCapacity =
        .ok ((mbRegsRead regs startAddr quantity outCapacity).isSome, out') ∧
      UnchangedFrom (base + quantity.toNat * 2) outData out' ∧
      ∀ bytes, mbRegsRead regs startAddr quantity outCapacity = some bytes →
        Starts out' (written ++ bytes) := by
  rw [mbRegsReadInto, mbRegsRead]
  split_ifs with hq hcap
  · exact ⟨outData, rfl, .refl _ _, fun _ hbytes => nomatch hbytes⟩
  · exact ⟨outData, rfl, .refl _ _, fun _ hbytes => nomatch hbytes⟩
  · have hzero : startAddr + UInt16.ofNat 0 = startAddr := UInt16.add_zero startAddr
    have hloop := mbRegsReadLoop_spec regs startAddr (i := 0) (n := quantity.toNat) h (by omega)
      (by omega)
    rw [hzero, Nat.zero_add] at hloop
    exact hloop

end Buffer

/-! ## A range against its registers -/

/-- What a read of a range returns and leaves in the output buffer, against the single registers of
the range. -/
structure RangeRead (regs : ModbusRegMap) (startAddr quantity : UInt16) {outCapacity : Nat}
    (before : Vector UInt8 outCapacity) (result : Bool) (after : Vector UInt8 outCapacity) :
    Prop where
  accepted : result = true ↔
    (1 ≤ quantity.toNat ∧ quantity.toNat ≤ 125) ∧ 2 * quantity.toNat ≤ outCapacity ∧
      ∀ i < quantity.toNat, IsMapped (startAddr.toNat + i)
  bytes : result = true → ∃ reads : List (Vector UInt8 2), reads.length = quantity.toNat ∧
    (∀ i read, reads[i]? = some read → ∀ outData : Vector UInt8 2,
      mbRegsReadInto regs (UInt16.ofNat (startAddr.toNat + i)) 1 outData 0 2 =
        .ok (true, read)) ∧
    after.toList.take (2 * quantity.toNat) = reads.flatMap Vector.toList
  beyond : UnchangedFrom (2 * quantity.toNat) before after

section Single

variable {regs : ModbusRegMap}

/-- A read of one register that exists. -/
theorem mbRegsReadInto_one {addr val : UInt16} (hval : regValue regs addr = some val)
    (outData : Vector UInt8 2) :
    mbRegsReadInto regs addr 1 outData 0 2 = .ok (true, regBytes val) := by
  have hbytes : mbRegsRead regs addr 1 2 = some (putBe16 val) := by
    show mbRegsReadFrom regs addr 1 = _
    rw [mbRegsReadFrom, hval]
    rfl
  obtain ⟨out', hout, -, hstarts⟩ := mbRegsReadInto_spec regs addr 1 0 2 (starts_nil outData)
    rfl (Nat.le_refl 2)
  rw [hout, hbytes]
  have hall := toList_of_starts (hstarts _ hbytes) rfl
  have heq : out' = regBytes val := Vector.toList_inj.1 hall
  rw [heq]
  rfl

/-- When a read succeeds. -/
theorem isSome_mbRegsRead_iff (startAddr quantity : UInt16) (outCapacity : Nat) :
    (mbRegsRead regs startAddr quantity outCapacity).isSome = true ↔
      (1 ≤ quantity.toNat ∧ quantity.toNat ≤ 125) ∧ 2 * quantity.toNat ≤ outCapacity ∧
        ∀ i < quantity.toNat, IsMapped (startAddr.toNat + i) := by
  rw [mbRegsRead, ← forall_isSome_regValue_iff regs]
  split_ifs with hbad hcap
  · exact iff_of_false (by rintro ⟨⟩) fun h => (quantity_refused_iff quantity).1 hbad h.1
  · exact iff_of_false (by rintro ⟨⟩) fun h => by omega
  · rw [isSome_mbRegsReadFrom_iff]
    exact ⟨fun h => ⟨quantity_accepted hbad, by omega, h⟩, fun h => h.2.2⟩

/-- The bytes of the registers of a range, one array for each. -/
def singleReads (regs : ModbusRegMap) (startAddr : UInt16) (n : Nat) : List (Vector UInt8 2) :=
  (List.range n).map fun k => regBytes ((regValue regs (startAddr + UInt16.ofNat k)).getD 0)

/-- They are what the single reads return. -/
theorem mbRegsReadInto_singleReads {startAddr : UInt16} {n i : Nat} {read : Vector UInt8 2}
    (hmapped : ∀ k < n, IsMapped (startAddr.toNat + k))
    (hread : (singleReads regs startAddr n)[i]? = some read) (outData : Vector UInt8 2) :
    mbRegsReadInto regs (UInt16.ofNat (startAddr.toNat + i)) 1 outData 0 2 = .ok (true, read) := by
  rw [singleReads, List.getElem?_map, Option.map_eq_some_iff] at hread
  obtain ⟨k, hk, rfl⟩ := hread
  obtain ⟨hi, rfl⟩ := List.getElem?_eq_some_iff.1 hk
  rw [List.length_range] at hi
  have hsome := (forall_isSome_regValue_iff regs startAddr n).2 hmapped i hi
  obtain ⟨val, hval⟩ := Option.isSome_iff_exists.1 hsome
  rw [List.getElem_range, UInt16.ofNat_add, UInt16.ofNat_toNat, hval]
  exact mbRegsReadInto_one hval outData

/-- A read of a range succeeds exactly when the quantity is 1 to 125, the buffer has room and every
address of the range, without wrap-around, has a register. Its bytes are then those of the single
reads, in order; whatever it returns, it writes nothing behind the range. -/
theorem range_read_is_concatenation (regs : ModbusRegMap) (startAddr quantity : UInt16)
    {outCapacity : Nat} (outData : Vector UInt8 outCapacity) :
    ∃ result after, mbRegsReadInto regs startAddr quantity outData 0 outCapacity =
        .ok (result, after) ∧
      RangeRead regs startAddr quantity outData result after := by
  obtain ⟨after, hafter, hkept, hstarts⟩ := mbRegsReadInto_spec regs startAddr quantity 0
    outCapacity (starts_nil outData) rfl (by omega)
  refine ⟨_, after, hafter, isSome_mbRegsRead_iff startAddr quantity outCapacity,
    fun hsome => ?_, ?_⟩
  · obtain ⟨bytes, hbytes⟩ := Option.isSome_iff_exists.1 hsome
    obtain ⟨-, -, hmapped⟩ := (isSome_mbRegsRead_iff _ _ _).1 hsome
    refine ⟨singleReads regs startAddr quantity.toNat, by simp [singleReads],
      fun i read hread => mbRegsReadInto_singleReads hmapped hread, ?_⟩
    have htake := (hstarts bytes hbytes).bytes
    rw [List.nil_append, length_of_mbRegsRead hbytes, Nat.mul_comm] at htake
    rw [htake, mbRegsReadFrom_eq_flatMap (mbRegsReadFrom_of_mbRegsRead hbytes), singleReads,
      List.flatMap_map]
    rfl
  · rwa [Nat.zero_add, Nat.mul_comm] at hkept

end Single

end ClimateNode.Service
