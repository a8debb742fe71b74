import ClimateNode.App.BusTransactions
import ClimateNode.App.IdealNode

/-!
# The node, from the sensor to the bus

Runs of the node on the bus, above the ideal node. Each step is for the ideal node at most one event
(`idealNodeEvents`): a sample when the control task is due, a request when the handler comes to it.
While frames come paced, what the node transmits is what the ideal node answers
(`bus_refines_ideal_node`), and the status that a master reads is that of the ideal node at the
moment the request is handled (`bus_reads_ideal_status`).
-/

set_option autoImplicit false

namespace ClimateNode.Application

open ClimateNode.Core ClimateNode.Service ClimateNode.Machine ClimateNode.Platforms

section Runs

variable {F : Type} {s : Bus F} {i : IdealNode}

/-- What a step is for the ideal node: a due control task is a sample, and the handler answers a
request. -/
def idealNodeEvents (s : Bus F) (op : BusOp) (_ : Bus F) : List IdealNodeEvent :=
  match op with
  | .control input =>
      if s.task.phase = .idle ∧ appDue s.task.node.sys.app input.nowMs = true then
        [.sample (portReading input.read)]
      else []
  | .modbus nowMs =>
      if s.task.phase = .handle then [.request nowMs s.task.server.request] else []
  | .frame _ | .logger | .txComplete => []

theorem length_idealNodeEvents (s : Bus F) (op : BusOp) (s' : Bus F) :
    (idealNodeEvents s op s').length ≤ 1 := by
  cases op with
  | control input =>
      simp only [idealNodeEvents]
      split
      · exact Nat.le_refl 1
      · exact Nat.zero_le 1
  | modbus nowMs =>
      simp only [idealNodeEvents]
      split
      · exact Nat.le_refl 1
      · exact Nat.zero_le 1
  | frame bytes => exact Nat.zero_le 1
  | logger => exact Nat.zero_le 1
  | txComplete => exact Nat.zero_le 1

/-- A delivered event touches the server only. -/
theorem nodeRefines_deliverEvents {t : Delivery F} (h : NodeRefines t.node i)
    (events : List UartEvent) : NodeRefines (events.foldl deliverEvent t).node i := by
  induction events generalizing t with
  | nil => exact h
  | cons event events ih => exact ih ⟨h.ctrl, h.active, h.diag, h.cfg, h.range⟩

theorem nodeRefines_busFrame (h : NodeRefines s.task.node i) (bytes : List UInt8) :
    NodeRefines (busFrame s bytes).task.node i := by
  unfold busFrame
  split
  · exact h
  · exact nodeRefines_deliverEvents h _

/-- Outside the handler a step of `modbus_task` touches the server and the tickets only. -/
theorem nodeRefines_modbusTaskStep {t : Delivery F} (d : FlashDriver F) (nowMs : UInt32)
    (h : NodeRefines t.node i) (hphase : t.phase ≠ .handle) :
    NodeRefines (modbusTaskStep d nowMs t).node i := by
  obtain ⟨n, phase, accepted, handled⟩ := t
  cases phase with
  | idle => exact ⟨h.ctrl, h.active, h.diag, h.cfg, h.range⟩
  | testOther =>
      simp only [modbusTaskStep]
      split
      · exact h
      · exact ⟨h.ctrl, h.active, h.diag, h.cfg, h.range⟩
  | handle => exact absurd rfl hphase
  | clear => exact ⟨h.ctrl, h.active, h.diag, h.cfg, h.range⟩

theorem task_busModbus {d : FlashDriver F} {nowMs : UInt32} {s' : Bus F}
    (h : busModbus d nowMs s = .ok s') : s'.task = modbusTaskStep d nowMs s.task := by
  unfold busModbus at h
  split at h
  · obtain ⟨log, -, h⟩ := checked_bind_eq_ok h
    cases h
    rfl
  · cases h
    unfold busStartUart
    split <;> rfl
  · cases h
    rfl

/-- A step that is nothing for the ideal node, or a sample, is answered by nobody; a request is
answered by both alike. -/
theorem answers_idealNodeEvents (dewOf : Int → Nat → Int) (h : NodeRefines s.task.node i)
    (op : BusOp) (s' : Bus F) :
    answers (idealNodeStep dewOf) i (idealNodeEvents s op s') =
      answers deviceStep (registerDevice s.task.node) (busEvents s op s') := by
  cases op with
  | frame bytes => rfl
  | control input =>
      simp only [idealNodeEvents, busEvents]
      split
      · rfl
      · rfl
  | modbus nowMs =>
      simp only [idealNodeEvents, busEvents]
      split
      · simp only [answers_cons, answers_nil, idealNodeStep_answer dewOf h]
        rfl
      · rfl
  | logger => rfl
  | txComplete => rfl

/-- A control task is a sample when it is due. -/
theorem nodeRefines_busControl (lut : DewpointLut) {d : FlashDriver F} {input : McuInput}
    {s' : Bus F} (h : NodeRefines s.task.node i) (hs : busStep lut d s (.control input) = .ok s') :
    NodeRefines s'.task.node
      (after (idealNodeStep (idealDew lut)) i (idealNodeEvents s (.control input) s')) := by
  simp only [busStep] at hs
  by_cases hidle : s.task.phase = .idle
  · rw [if_pos hidle] at hs
    by_cases hdue : appDue s.task.node.sys.app input.nowMs = true
    · obtain ⟨n', hn', hrefines⟩ := nodeRefines_controlTask lut h hdue
      have hevents : idealNodeEvents s (.control input) s' =
          [.sample (portReading input.read)] := if_pos ⟨hidle, hdue⟩
      rw [hn'] at hs
      cases hs
      rw [hevents]
      exact hrefines
    · have hevents : idealNodeEvents s (.control input) s' = [] := if_neg fun hc => hdue hc.2
      rw [controlTask_notDue lut hdue] at hs
      cases hs
      rw [hevents]
      exact h
  · have hevents : idealNodeEvents s (.control input) s' = [] := if_neg fun hc => hidle hc.1
    rw [if_neg hidle] at hs
    cases hs
    rw [hevents]
    exact h

/-- The handler serves the waiting request. -/
theorem nodeRefines_busModbus (dewOf : Int → Nat → Int) {d : FlashDriver F}
    (hwrite : TakesWrites d) {nowMs : UInt32} {s' : Bus F} (h : BusInv s)
    (hn : NodeRefines s.task.node i) (hs : busModbus d nowMs s = .ok s') :
    NodeRefines s'.task.node
      (after (idealNodeStep dewOf) i (idealNodeEvents s (.modbus nowMs) s')) := by
  rw [task_busModbus hs]
  by_cases hphase : s.task.phase = .handle
  · have hevents : idealNodeEvents s (.modbus nowMs) s' =
        [.request nowMs s.task.server.request] := if_pos hphase
    rw [hevents, after_cons, after_nil]
    simp only [modbusTaskStep, hphase]
    exact nodeRefines_handleModbusRequest hwrite dewOf hn nowMs (wellShaped_of_handle h hphase)
  · have hevents : idealNodeEvents s (.modbus nowMs) s' = [] := if_neg hphase
    rw [hevents]
    exact nodeRefines_modbusTaskStep d nowMs hn hphase

/-- The bus beside the ideal node. -/
def BusRefines (s : Bus F) (i : IdealNode) : Prop := BusInv s ∧ NodeRefines s.task.node i

/-- A paced step is the ideal node taking the events of the step. -/
theorem busStep_refines_ideal (lut : DewpointLut) {d : FlashDriver F} (hwrite : TakesWrites d)
    (op : BusOp) (h : BusRefines s i) (hpaced : Paced s op) :
    ∃ s', busStep lut d s op = .ok s' ∧
      BusRefines s' (after (idealNodeStep (idealDew lut)) i (idealNodeEvents s op s')) ∧
      s'.tx.taken = s.tx.taken ++
        answers (idealNodeStep (idealDew lut)) i (idealNodeEvents s op s') := by
  obtain ⟨hinv, hn⟩ := h
  obtain ⟨s', hs, hfacts⟩ := busStep_facts lut hwrite hinv op hpaced
  refine ⟨s', hs, ⟨hfacts.inv, ?_⟩, ?_⟩
  · cases op with
    | frame bytes =>
        cases hs
        exact nodeRefines_busFrame hn bytes
    | control input => exact nodeRefines_busControl lut hn hs
    | modbus nowMs => exact nodeRefines_busModbus (idealDew lut) hwrite hinv hn hs
    | logger =>
        simp only [busStep] at hs
        split at hs
        · cases hs
          exact hn
        · cases hs
          exact hn
    | txComplete =>
        cases hs
        exact nodeRefines_deliverEvents hn _
  · rw [answers_idealNodeEvents (idealDew lut) hn]
    exact hfacts.taken

theorem busRefines_start (d : FlashDriver F) (plat : Platform) (flash : F) (cause : ResetCause)
    (bootMs : UInt32) (rx : UartRx) (log : Logger) :
    BusRefines (busStart (mcuBoot d plat flash cause bootMs) rx log)
      (idealNodeStart plat.backupReg cause bootMs (cfgRegisters (appLoadedCfg d flash))) := by
  have h := nodeRefines_mcuBoot d plat flash cause bootMs
  exact ⟨busInv_start (ctrlInv_initExtended _ _ cause) rx log,
    h.ctrl, h.active, h.diag, h.cfg, h.range⟩

/-- From every boot on, in every order of frames, tasks and interrupts and with any samples: while
frames come paced, what the node has transmitted is what the ideal node answers, given the readings
of the samples that were due and the requests that were handled. -/
theorem bus_refines_ideal_node (lut : DewpointLut) {d : FlashDriver F} (hwrite : TakesWrites d)
    (plat : Platform) (flash : F) (cause : ResetCause) (bootMs : UInt32) (rx : UartRx)
    (log : Logger) {ops : List BusOp}
    (hops : StepsMeet (busStep lut d) Paced
      (busStart (mcuBoot d plat flash cause bootMs) rx log) ops) :
    let start := busStart (mcuBoot d plat flash cause bootMs) rx log
    ∃ s, run (busStep lut d) start ops = .ok s ∧
      s.tx.taken = answers (idealNodeStep (idealDew lut))
        (idealNodeStart plat.backupReg cause bootMs (cfgRegisters (appLoadedCfg d flash)))
        (observed (busStep lut d) idealNodeEvents start ops) := by
  obtain ⟨s, hrun, -, htaken⟩ := run_answers (f := fun s : Bus F => s.tx.taken)
    (R := BusRefines) (fun s op i hR hC => busStep_refines_ideal lut hwrite op hR hC)
    (busRefines_start d plat flash cause bootMs rx log) hops
  exact ⟨s, hrun, htaken⟩

/-- Along the same runs, every read of the status registers is answered in its turn, and what the
master reads is the status of the ideal node at that moment. -/
theorem bus_reads_ideal_status (lut : DewpointLut) {d : FlashDriver F} (hwrite : TakesWrites d)
    (plat : Platform) (flash : F) (cause : ResetCause) (bootMs : UInt32) (rx : UartRx)
    (log : Logger) {ops : List BusOp}
    (hops : StepsMeet (busStep lut d) Paced
      (busStart (mcuBoot d plat flash cause bootMs) rx log) ops) :
    let node := idealNodeStep (idealDew lut)
    let start := idealNodeStart plat.backupReg cause bootMs (cfgRegisters (appLoadedCfg d flash))
    ∃ s, run (busStep lut d) (busStart (mcuBoot d plat flash cause bootMs) rx log) ops = .ok s ∧
      ∀ pre nowMs req post,
        observed (busStep lut d) idealNodeEvents
          (busStart (mcuBoot d plat flash cause bootMs) rx log) ops =
            pre ++ .request nowMs req :: post →
        registerQuery req = some (.read 0 8) →
        ∃ resp rest, s.tx.taken = answers node start pre ++ resp :: rest ∧
          (readReply resp).bind readStatus = some ((after node start pre).status nowMs) := by
  intro node start
  have hstart := busRefines_start d plat flash cause bootMs rx log
  obtain ⟨s, hrun, -, htaken⟩ := run_answers (f := fun s : Bus F => s.tx.taken)
    (R := BusRefines) (fun s op i hR hC => busStep_refines_ideal lut hwrite op hR hC) hstart hops
  refine ⟨s, hrun, fun pre nowMs req post hevents hquery => ?_⟩
  -- the state in which the request is handled
  obtain ⟨s₁, op, s₂, ⟨-, hn⟩, -, -⟩ : ∃ (s₁ : Bus F) (op : BusOp) (s₂ : Bus F),
      BusRefines s₁ (after node start pre) ∧ busStep lut d s₁ op = .ok s₂ ∧
        idealNodeEvents s₁ op s₂ = [.request nowMs req] :=
    observed_reaches (fun s op s' => length_idealNodeEvents s op s') (fun s op i hR hC => by
      obtain ⟨s', hs, hR', -⟩ := busStep_refines_ideal lut hwrite op hR hC
      exact ⟨s', hs, hR'⟩) hstart hops hevents
  obtain ⟨resp, hresp, hread⟩ :=
    readReply_deviceStep (after node start pre).device nowMs hquery
  have hanswer : (node (after node start pre) (.request nowMs req)).2 = [resp] := by
    rw [idealNodeStep_answer (idealDew lut) hn, ← hn.device]
    exact hresp
  rw [hevents, answers_at, hanswer] at htaken
  refine ⟨resp, _, htaken.trans (List.append_assoc _ _ _), ?_⟩
  have htemp := hn.range.temp
  have hdew := hn.range.dew
  rw [InSensorRange, ← hn.ctrl.temp] at htemp
  rw [InSensorRange, ← hn.ctrl.dew] at hdew
  have hstatus := readStatus_status htemp (hn.ctrl.humidity ▸ hn.range.humidity_le) hdew nowMs
  rw [hread, if_pos (by decide)]
  exact (congrArg (·.bind readStatus) (lookupRange_status _ nowMs)).trans hstatus

end Runs

/-- A read of the eight status registers. -/
def statusRead : List UInt8 := [0x01, 0x03, 0x00, 0x00, 0x00, 0x08, 0x44, 0x0C]

/-- Three failed readings, then 25.00 °C and 90.00 %; the last call comes before a sample is
due. -/
def sensorCalls : List BusOp :=
  [1000, 2000, 3000].map (fun nowMs => .control ⟨nowMs, .comm, ⟨0, 0, nowMs, .fault⟩⟩) ++
    [4000, 5000, 6000, 7000, 8000, 9000, 10000, 10001, 10002].map fun nowMs =>
      .control ⟨nowMs, .ok, ⟨2500, 9000, nowMs, .valid⟩⟩

def samplesThenRead : List BusOp :=
  [.modbus 0, .modbus 0] ++ sensorCalls ++
    [.frame statusRead, .modbus 10003, .modbus 10003, .modbus 10003, .txComplete]

theorem paced_samplesThenRead :
    StepsMeet (busStep dewpointLnRhQ10 stm32f1Flash) Paced poweredBus samplesThenRead := by
  apply paced_of_eightByteMaster dewpointLnRhQ10 takesWrites_stm32f1Flash
    (busInv_start (ctrlInv_initExtended _ _ _) _ _) (fun hne => absurd rfl hne)
  decide +kernel

/-- The node has failed once and recovered, and answers with what it has measured. -/
theorem bus_refines_ideal_node_samples :
    ∃ s, run (busStep dewpointLnRhQ10 stm32f1Flash) poweredBus samplesThenRead = .ok s ∧
      s.tx.taken = [[0x01, 0x03, 0x10, 0x09, 0xC4, 0x23, 0x28, 0x09, 0x14, 0, 1, 0, 2, 0, 1,
        0x27, 0x13, 0, 0, 0x11, 0x9A]] := by
  obtain ⟨s, hrun, htaken⟩ :=
    bus_refines_ideal_node dewpointLnRhQ10 takesWrites_stm32f1Flash ⟨[], 0⟩ stm32f1Erased
      .powerOn 0 clearedRing clearedLogger paced_samplesThenRead
  exact ⟨s, hrun, htaken.trans (by decide +kernel)⟩

/-- A master reads 25.00 °C, 90.00 %, a dew point of 23.24 °C, the relay on and one fault. -/
theorem bus_reads_ideal_status_samples :
    ∃ s, run (busStep dewpointLnRhQ10 stm32f1Flash) poweredBus samplesThenRead = .ok s ∧
      ∃ resp rest, s.tx.taken = resp :: rest ∧
        (readReply resp).bind readStatus = some ⟨2500, 9000, 2324, true, .running, 1, 10003⟩ := by
  obtain ⟨s, hrun, hread⟩ :=
    bus_reads_ideal_status dewpointLnRhQ10 takesWrites_stm32f1Flash ⟨[], 0⟩ stm32f1Erased
      .powerOn 0 clearedRing clearedLogger paced_samplesThenRead
  have hevents : observed (busStep dewpointLnRhQ10 stm32f1Flash) idealNodeEvents poweredBus
      samplesThenRead =
        (List.replicate 3 (.sample none) ++ List.replicate 8 (.sample (some ⟨2500, 9000⟩))) ++
          .request 10003 ⟨1, 0x03, [0x00, 0x00, 0x00, 0x08]⟩ :: [] := by
    decide +kernel
  obtain ⟨resp, rest, htaken, hstatus⟩ := hread _ 10003 _ _ hevents (by decide)
  exact ⟨s, hrun, resp, rest, htaken, hstatus.trans (by decide +kernel)⟩

end ClimateNode.Application
