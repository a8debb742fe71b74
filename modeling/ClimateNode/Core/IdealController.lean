import ClimateNode.Core.Types
import ClimateNode.Machine.Hysteresis
import ClimateNode.Machine.Observation
import ClimateNode.Machine.SlidingWindow

/-!
# An ideal controller

What the controller is for, without its representation: a reading is a temperature and a humidity in
unbounded numbers, or nothing when the sample was refused; the last five processed temperatures are
a list; the streaks are natural numbers. The dew point is any function of a temperature and a
humidity.

- `mode_after_readings`: from any state without a lock, the number of readings in a row that lead to
  the running mode;
- `settled_afterReadings`: five readings past the ignored ones make everything but the relay a
  function of the readings;
- `SameButRelay.update`: controllers that differ in the relay at most still do after any sample;
- `Settled.relay_afterReadings`: from then on the relay is a two-threshold switch on the margins;
- `Dry.update`: readings from a band of dry air never switch the relay on.
-/

set_option autoImplicit false

namespace ClimateNode.Core

open ClimateNode.Machine

/-- Thresholds, streaks and the safe state of the relay. -/
structure IdealConfig where
  marginOn : Int
  marginOff : Int
  faultAfter : Nat
  recoverAfter : Nat
  safeState : Bool

/-- What a valid sample says. -/
structure Reading where
  temp : Int
  humidity : Nat
  deriving DecidableEq, Repr

/-- The modes. -/
inductive IdealMode where
  | starting
  | warming
  | running
  | faulty
  | locked
  deriving DecidableEq, Repr

/-- The ideal controller: the window of processed temperatures, the refused samples in a row, the
readings in a row while faulty, and what it reports. -/
structure IdealController where
  mode : IdealMode
  window : List Int
  refused : Nat
  recovered : Nat
  relay : Bool
  temp : Int
  humidity : Nat
  dew : Int
  deriving DecidableEq, Repr

/-- A sample, which may be refused, or the emergency shutdown. -/
inductive IdealEvent where
  | sample (reading : Option Reading)
  | shutdown
  deriving DecidableEq, Repr

/-- What a sample leads to: the returned code and what is reported. -/
structure IdealReport where
  code : Err
  mode : IdealMode
  relay : Bool
  temp : Int
  humidity : Nat
  dew : Int
  deriving DecidableEq, Repr

/-- The truncated mean of a window. -/
def idealMean (w : List Int) : Int := w.sum.tdiv w.length

section Machine

variable (cfg : IdealConfig) (dewOf : Int → Nat → Int)

/-- A reading goes into the window. With a full window the margin decides on the relay. -/
def idealProcess (c : IdealController) (r : Reading) : IdealController :=
  let window := pushWindow 5 c.window r.temp
  let temp := idealMean window
  let c := { c with
    window := window, temp := temp, humidity := r.humidity, refused := 0, recovered := 0 }
  if window.length < 5 then { c with mode := .warming, relay := cfg.safeState }
  else
    let dew := dewOf temp r.humidity
    { c with
      mode := .running
      dew := dew
      relay := hysteresis cfg.marginOn cfg.marginOff c.relay (temp - dew) }

/-- A refused sample. -/
def idealRefuse (c : IdealController) : IdealController :=
  let c := { c with refused := c.refused + 1, recovered := 0 }
  if cfg.faultAfter ≤ c.refused ∨ c.mode = .faulty then
    { c with mode := .faulty, relay := cfg.safeState }
  else c

/-- A sample, with the returned code. -/
def idealUpdate (c : IdealController) (reading : Option Reading) : IdealController × Err :=
  if c.mode = .locked then ({ c with relay := cfg.safeState }, .hw)
  else
    match reading with
    | none => (idealRefuse cfg c, .sensor)
    | some r =>
        -- a fault is left only after enough readings in a row
        if c.mode = .faulty ∧ c.recovered + 1 < cfg.recoverAfter then
          ({ c with refused := 0, recovered := c.recovered + 1 }, .notReady)
        else
          let c := idealProcess cfg dewOf c r
          (c, if c.mode = .running then .ok else .warmup)

/-- What the controller reports with the code `code`. -/
def idealReport (c : IdealController) (code : Err) : IdealReport :=
  ⟨code, c.mode, c.relay, c.temp, c.humidity, c.dew⟩

/-- One event: a sample is answered with a report. -/
def idealStep (c : IdealController) : IdealEvent → IdealController × List IdealReport
  | .sample reading =>
      let r := idealUpdate cfg dewOf c reading
      (r.1, [idealReport r.1 r.2])
  | .shutdown => ({ c with mode := .locked, relay := cfg.safeState }, [])

/-- The controller at its start, in the mode `mode`. -/
def idealStart (mode : IdealMode) : IdealController :=
  ⟨mode, [], 0, 0, cfg.safeState, 0, 0, 0⟩

/-- The controller after the readings `v`, one for each sample. -/
def afterReadings (c : IdealController) (v : List Reading) : IdealController :=
  after (idealStep cfg dewOf) c (v.map fun r => .sample (some r))

/-- The invariant: the window belongs to the mode, and the recovery streak has not reached its
end. -/
structure IdealInv (c : IdealController) : Prop where
  length_le : c.window.length ≤ 5
  empty : c.mode = .starting → c.window = []
  filling : c.mode = .starting ∨ c.mode = .warming → c.window.length < 5
  full : c.mode = .running → c.window.length = 5
  recovering : c.mode = .faulty → c.recovered < cfg.recoverAfter

/-- The readings in a row that are needed to get to the running mode. -/
def readingsNeeded (c : IdealController) : Nat :=
  match c.mode with
  | .running => 0
  | .faulty => (cfg.recoverAfter - 1 - c.recovered) + max 1 (5 - c.window.length)
  | .starting | .warming | .locked => 5 - c.window.length

/-- The readings in a row that are ignored before one is processed. -/
def readingsIgnored (c : IdealController) : Nat :=
  if c.mode = .faulty then cfg.recoverAfter - 1 - c.recovered else 0

end Machine

/-! ## Readings in a row -/

section Readings

variable {cfg : IdealConfig} {dewOf : Int → Nat → Int} {c : IdealController}

@[simp] theorem afterReadings_nil : afterReadings cfg dewOf c [] = c := rfl

theorem afterReadings_append (v w : List Reading) :
    afterReadings cfg dewOf c (v ++ w) =
      afterReadings cfg dewOf (afterReadings cfg dewOf c v) w := by
  rw [afterReadings, List.map_append, after_append]
  rfl

theorem afterReadings_cons (r : Reading) (v : List Reading) :
    afterReadings cfg dewOf c (r :: v) =
      afterReadings cfg dewOf (idealUpdate cfg dewOf c (some r)).1 v := rfl

theorem afterReadings_snoc (v : List Reading) (r : Reading) :
    afterReadings cfg dewOf c (v ++ [r]) =
      (idealUpdate cfg dewOf (afterReadings cfg dewOf c v) (some r)).1 := by
  rw [afterReadings_append, afterReadings_cons, afterReadings_nil]

theorem readingsIgnored_le (cfg : IdealConfig) (c : IdealController) :
    readingsIgnored cfg c ≤ cfg.recoverAfter - 1 := by
  rw [readingsIgnored]
  split
  · exact Nat.sub_le _ _
  · exact Nat.zero_le _

variable (cfg dewOf) in
theorem length_window_idealProcess (h : c.window.length ≤ 5) (r : Reading) :
    (idealProcess cfg dewOf c r).window.length = min (c.window.length + 1) 5 := by
  have hlen := length_pushWindow h (by decide) r.temp
  unfold idealProcess
  dsimp only
  split
  · exact hlen
  · exact hlen

theorem window_idealProcess (r : Reading) :
    (idealProcess cfg dewOf c r).window = pushWindow 5 c.window r.temp := by
  unfold idealProcess
  dsimp only
  split
  · rfl
  · rfl

variable (cfg dewOf) in
/-- A processed reading leads to `warming` until the window is full, and to `running` from then
on. -/
theorem mode_idealProcess (h : c.window.length ≤ 5) (r : Reading) :
    (idealProcess cfg dewOf c r).mode =
      if c.window.length + 1 < 5 then .warming else .running := by
  have hlen := length_pushWindow h (by decide) r.temp
  unfold idealProcess
  dsimp only
  by_cases hshort : c.window.length + 1 < 5
  · rw [if_pos hshort, if_pos (by omega)]
  · rw [if_neg hshort, if_neg (by omega)]

theorem idealUpdate_locked (h : c.mode = .locked) (reading : Option Reading) :
    idealUpdate cfg dewOf c reading = ({ c with relay := cfg.safeState }, .hw) := if_pos h

theorem idealUpdate_refused (h : c.mode ≠ .locked) :
    idealUpdate cfg dewOf c none = (idealRefuse cfg c, .sensor) := if_neg h

/-- While readings are ignored, one more only extends the recovery streak. -/
theorem idealUpdate_ignored (hmode : c.mode = .faulty) (hlt : c.recovered + 1 < cfg.recoverAfter)
    (r : Reading) :
    idealUpdate cfg dewOf c (some r) =
      ({ c with refused := 0, recovered := c.recovered + 1 }, .notReady) := by
  have hunlocked : c.mode ≠ .locked := by
    rw [hmode]
    rintro ⟨⟩
  simp only [idealUpdate, if_neg hunlocked, if_pos (And.intro hmode hlt)]

/-- Otherwise it is processed. -/
theorem idealUpdate_processed (hunlocked : c.mode ≠ .locked) (h : readingsIgnored cfg c = 0)
    (r : Reading) :
    idealUpdate cfg dewOf c (some r) =
      (idealProcess cfg dewOf c r,
        if (idealProcess cfg dewOf c r).mode = .running then .ok else .warmup) := by
  have hready : ¬ (c.mode = .faulty ∧ c.recovered + 1 < cfg.recoverAfter) := by
    rintro ⟨hmode, hlt⟩
    rw [readingsIgnored, if_pos hmode] at h
    omega
  simp only [idealUpdate, if_neg hunlocked, if_neg hready]

/-- When no reading is ignored, the readings needed fill the window, and a controller that is not
running needs one in any case. -/
theorem readingsNeeded_of_ready (hinv : IdealInv cfg c) (hunlocked : c.mode ≠ .locked)
    (h : readingsIgnored cfg c = 0) :
    readingsNeeded cfg c = if c.mode = .running then 0 else max 1 (5 - c.window.length) := by
  cases hmode : c.mode with
  | starting =>
      have := hinv.filling (Or.inl hmode)
      simp only [readingsNeeded, hmode, reduceCtorEq, if_false]
      omega
  | warming =>
      have := hinv.filling (Or.inr hmode)
      simp only [readingsNeeded, hmode, reduceCtorEq, if_false]
      omega
  | running => simp only [readingsNeeded, hmode, if_true]
  | faulty =>
      rw [readingsIgnored, if_pos hmode] at h
      simp only [readingsNeeded, hmode, reduceCtorEq, if_false]
      omega
  | locked => exact absurd hmode hunlocked

/-- What one reading does to a controller without a lock. -/
structure ReadingStep (cfg : IdealConfig) (c c' : IdealController) (r : Reading) : Prop where
  inv : IdealInv cfg c'
  unlocked : c'.mode ≠ .locked
  needed : readingsNeeded cfg c' = readingsNeeded cfg c - 1
  ignored : readingsIgnored cfg c' = readingsIgnored cfg c - 1
  window : c'.window =
    if readingsIgnored cfg c = 0 then pushWindow 5 c.window r.temp else c.window

variable (dewOf) in
theorem readingStep (hinv : IdealInv cfg c) (hunlocked : c.mode ≠ .locked) (r : Reading) :
    ReadingStep cfg c (idealUpdate cfg dewOf c (some r)).1 r := by
  have hle := hinv.length_le
  by_cases hignored : readingsIgnored cfg c = 0
  · -- the reading is processed
    have hmode := mode_idealProcess cfg dewOf hle r
    have hlen := length_window_idealProcess cfg dewOf hle r
    have hneeded := readingsNeeded_of_ready hinv hunlocked hignored
    rw [idealUpdate_processed hunlocked hignored]
    show ReadingStep cfg c (idealProcess cfg dewOf c r) r
    by_cases hshort : c.window.length + 1 < 5
    · rw [if_pos hshort] at hmode
      rw [Nat.min_eq_left (by omega)] at hlen
      have hneeded' : readingsNeeded cfg (idealProcess cfg dewOf c r) = 4 - c.window.length := by
        simp only [readingsNeeded, hmode, hlen]
        omega
      have hnotRunning : c.mode ≠ .running := by
        intro hrunning
        have := hinv.full hrunning
        omega
      have hignored' : readingsIgnored cfg (idealProcess cfg dewOf c r) = 0 := by
        rw [readingsIgnored, hmode]
        rfl
      refine ⟨⟨by omega, ?_, fun _ => by omega, ?_, ?_⟩, ?_, ?_, by omega, ?_⟩
      · rw [hmode]
        rintro ⟨⟩
      · rw [hmode]
        rintro ⟨⟩
      · rw [hmode]
        rintro ⟨⟩
      · rw [hmode]
        rintro ⟨⟩
      · rw [hneeded', hneeded, if_neg hnotRunning]
        omega
      · rw [if_pos hignored, window_idealProcess]
    · rw [if_neg hshort] at hmode
      rw [Nat.min_eq_right (by omega)] at hlen
      have hneeded' : readingsNeeded cfg (idealProcess cfg dewOf c r) = 0 := by
        rw [readingsNeeded, hmode]
      have hignored' : readingsIgnored cfg (idealProcess cfg dewOf c r) = 0 := by
        rw [readingsIgnored, hmode]
        rfl
      refine ⟨⟨by omega, ?_, ?_, fun _ => hlen, ?_⟩, ?_, ?_, by omega, ?_⟩
      · rw [hmode]
        rintro ⟨⟩
      · rw [hmode]
        rintro (⟨⟨⟩⟩ | ⟨⟨⟩⟩)
      · rw [hmode]
        rintro ⟨⟩
      · rw [hmode]
        rintro ⟨⟩
      · rw [hneeded', hneeded]
        split <;> omega
      · rw [if_pos hignored, window_idealProcess]
  · -- the reading only extends the recovery streak
    have hmode : c.mode = .faulty := by
      by_contra hmode
      exact hignored (if_neg hmode)
    have hval : readingsIgnored cfg c = cfg.recoverAfter - 1 - c.recovered := if_pos hmode
    rw [idealUpdate_ignored hmode (by omega)]
    refine ⟨⟨hle, ?_, ?_, ?_, fun _ => ?_⟩, hunlocked, ?_, ?_, (if_neg hignored).symm⟩
    · exact hinv.empty
    · exact hinv.filling
    · exact hinv.full
    · show c.recovered + 1 < cfg.recoverAfter
      omega
    · simp only [readingsNeeded, hmode]
      omega
    · simp only [readingsIgnored, hmode, if_true]
      omega

theorem readingsNeeded_eq_zero_iff (hinv : IdealInv cfg c) (hunlocked : c.mode ≠ .locked) :
    readingsNeeded cfg c = 0 ↔ c.mode = .running := by
  constructor
  · intro h
    cases hmode : c.mode with
    | starting =>
        have := hinv.filling (Or.inl hmode)
        simp only [readingsNeeded, hmode] at h
        omega
    | warming =>
        have := hinv.filling (Or.inr hmode)
        simp only [readingsNeeded, hmode] at h
        omega
    | running => rfl
    | faulty =>
        simp only [readingsNeeded, hmode] at h
        omega
    | locked => exact absurd hmode hunlocked
  · intro h
    rw [readingsNeeded, h]

/-- What the readings `v` in a row do. -/
structure ReadingsRun (cfg : IdealConfig) (c c' : IdealController) (v : List Reading) : Prop where
  inv : IdealInv cfg c'
  unlocked : c'.mode ≠ .locked
  needed : readingsNeeded cfg c' = readingsNeeded cfg c - v.length
  ignored : readingsIgnored cfg c' = readingsIgnored cfg c - v.length
  window : c'.window =
    lastEntries 5 (c.window ++ (v.drop (readingsIgnored cfg c)).map Reading.temp)

variable (dewOf) in
theorem readingsRun (hinv : IdealInv cfg c) (hunlocked : c.mode ≠ .locked) (v : List Reading) :
    ReadingsRun cfg c (afterReadings cfg dewOf c v) v := by
  induction v using List.reverseRecOn with
  | nil =>
      have hall : c.window.length - 5 = 0 := Nat.sub_eq_zero_of_le hinv.length_le
      refine ⟨hinv, hunlocked, rfl, rfl, ?_⟩
      rw [List.drop_nil, List.map_nil, List.append_nil, lastEntries, hall, List.drop_zero,
        afterReadings_nil]
  | append_singleton v r ih =>
      have hstep := readingStep dewOf ih.inv ih.unlocked r
      have hneeded := ih.needed
      have hignored := ih.ignored
      rw [afterReadings_snoc]
      refine ⟨hstep.inv, hstep.unlocked, ?_, ?_, ?_⟩
      · rw [hstep.needed, hneeded, List.length_append, List.length_singleton, Nat.sub_sub]
      · rw [hstep.ignored, hignored, List.length_append, List.length_singleton, Nat.sub_sub]
      · rw [hstep.window, hignored, ih.window]
        by_cases hle : readingsIgnored cfg c ≤ v.length
        · -- the reading is past the ignored ones
          rw [if_pos (by omega), List.drop_append_of_le_length hle, List.map_append,
            List.map_singleton, ← List.append_assoc, lastEntries_snoc]
        · have hlong : (v ++ [r]).length ≤ readingsIgnored cfg c := by
            rw [List.length_append, List.length_singleton]
            omega
          rw [if_neg (by omega), List.drop_eq_nil_of_le hlong, List.drop_eq_nil_of_le (by omega)]

variable (dewOf) in
/-- After the readings `v` the controller is running exactly when they are as many as needed. -/
theorem mode_after_readings (hinv : IdealInv cfg c) (hunlocked : c.mode ≠ .locked)
    (v : List Reading) :
    (afterReadings cfg dewOf c v).mode = .running ↔ readingsNeeded cfg c ≤ v.length := by
  have hrun := readingsRun dewOf hinv hunlocked v
  rw [← readingsNeeded_eq_zero_iff hrun.inv hrun.unlocked, hrun.needed]
  omega

variable (dewOf) in
/-- At its start the controller needs five readings. -/
theorem mode_after_readings_of_starting (hinv : IdealInv cfg c) (hmode : c.mode = .starting)
    (v : List Reading) :
    (afterReadings cfg dewOf c v).window.length = min v.length 5 ∧
      (afterReadings cfg dewOf c v).mode =
        if v.length = 0 then .starting else if v.length < 5 then .warming else .running := by
  have hunlocked : c.mode ≠ .locked := by
    rw [hmode]
    rintro ⟨⟩
  have hready : readingsIgnored cfg c = 0 := by
    rw [readingsIgnored, hmode]
    rfl
  have hlength : ∀ u, (afterReadings cfg dewOf c u).window.length = min u.length 5 := by
    intro u
    rw [(readingsRun dewOf hinv hunlocked u).window, length_lastEntries, hready,
      hinv.empty hmode, List.nil_append, List.length_map, List.drop_zero]
  refine ⟨hlength v, ?_⟩
  rcases List.eq_nil_or_concat v with rfl | ⟨u, r, rfl⟩
  · exact hmode
  · have hrun := readingsRun dewOf hinv hunlocked u
    have hignored := hrun.ignored
    rw [hready, Nat.zero_sub] at hignored
    rw [List.concat_eq_append, afterReadings_snoc,
      idealUpdate_processed hrun.unlocked hignored]
    show (idealProcess cfg dewOf (afterReadings cfg dewOf c u) r).mode = _
    rw [mode_idealProcess cfg dewOf hrun.inv.length_le, hlength, List.length_append,
      List.length_singleton, if_neg (Nat.succ_ne_zero _)]
    by_cases hshort : u.length + 1 < 5
    · rw [if_pos hshort, if_pos (by omega)]
    · rw [if_neg hshort, if_neg (by omega)]

end Readings

/-! ## Forgetting -/

/-- The margin after the readings `v`, as far as it depends on them alone: the last five decide on
the temperature and the last one on the humidity. -/
def readingsMargin (dewOf : Int → Nat → Int) (v : List Reading) : Int :=
  let temp := idealMean (lastEntries 5 (v.map Reading.temp))
  temp - dewOf temp ((v.getLast?.map Reading.humidity).getD 0)

/-- The margins after `v` and each of the readings that follow. -/
def marginsAlong (dewOf : Int → Nat → Int) : List Reading → List Reading → List Int
  | _, [] => []
  | v, r :: w => readingsMargin dewOf (v ++ [r]) :: marginsAlong dewOf (v ++ [r]) w

/-- A controller that runs on the readings `v` alone: what was there before them is left in the
relay only. -/
structure Settled (dewOf : Int → Nat → Int) (v : List Reading) (c : IdealController) : Prop where
  long : 5 ≤ v.length
  running : c.mode = .running
  window : c.window = lastEntries 5 (v.map Reading.temp)
  refused : c.refused = 0
  recovered : c.recovered = 0
  temp : c.temp = idealMean (lastEntries 5 (v.map Reading.temp))
  humidity : c.humidity = (v.getLast?.map Reading.humidity).getD 0
  dew : c.dew = dewOf c.temp c.humidity

/-- Equal in everything but the relay. -/
def SameButRelay (c d : IdealController) : Prop := ∃ b, d = { c with relay := b }

section Forgetting

variable {cfg : IdealConfig} {dewOf : Int → Nat → Int} {c d : IdealController}

/-- Two controllers that run on the same readings differ in the relay at most. -/
theorem Settled.sameButRelay {v : List Reading} (hc : Settled dewOf v c)
    (hd : Settled dewOf v d) : SameButRelay c d := by
  obtain ⟨-, h₁, h₂, h₃, h₄, h₅, h₆, h₇⟩ := hc
  obtain ⟨-, g₁, g₂, g₃, g₄, g₅, g₆, g₇⟩ := hd
  refine ⟨d.relay, ?_⟩
  cases c
  cases d
  simp_all only

theorem SameButRelay.eq_of_relay (h : SameButRelay c d) (hrelay : c.relay = d.relay) : c = d := by
  obtain ⟨b, rfl⟩ := h
  rw [show b = c.relay from hrelay.symm]

theorem SameButRelay.mode_eq (h : SameButRelay c d) : d.mode = c.mode := by
  obtain ⟨b, rfl⟩ := h
  rfl

variable (cfg dewOf) in
theorem SameButRelay.process (h : SameButRelay c d) (r : Reading) :
    SameButRelay (idealProcess cfg dewOf c r) (idealProcess cfg dewOf d r) := by
  obtain ⟨b, rfl⟩ := h
  unfold idealProcess
  dsimp only
  split
  · exact ⟨cfg.safeState, rfl⟩
  · exact ⟨_, rfl⟩

variable (cfg) in
theorem SameButRelay.refuse (h : SameButRelay c d) :
    SameButRelay (idealRefuse cfg c) (idealRefuse cfg d) := by
  obtain ⟨b, rfl⟩ := h
  unfold idealRefuse
  dsimp only
  split
  · exact ⟨cfg.safeState, rfl⟩
  · exact ⟨b, rfl⟩

variable (cfg dewOf) in
/-- No sample shows in anything but the relay how the relay was, nor does its code. -/
theorem SameButRelay.update (h : SameButRelay c d) (reading : Option Reading) :
    SameButRelay (idealUpdate cfg dewOf c reading).1 (idealUpdate cfg dewOf d reading).1 ∧
      (idealUpdate cfg dewOf d reading).2 = (idealUpdate cfg dewOf c reading).2 := by
  have hmode := h.mode_eq
  have hrecovered : d.recovered = c.recovered := by
    obtain ⟨b, rfl⟩ := h
    rfl
  unfold idealUpdate
  rw [hmode, hrecovered]
  split
  · -- the lock puts the relay into its safe state
    obtain ⟨b, rfl⟩ := h
    exact ⟨⟨cfg.safeState, rfl⟩, rfl⟩
  · cases reading with
    | none => exact ⟨h.refuse cfg, rfl⟩
    | some r =>
        have hprocess := h.process cfg dewOf r
        dsimp only
        rw [hprocess.mode_eq]
        split
        · obtain ⟨b, rfl⟩ := h
          exact ⟨⟨b, rfl⟩, rfl⟩
        · exact ⟨hprocess, rfl⟩

/-- A reading that fills the window settles the controller. -/
theorem settled_idealProcess {v : List Reading} {r : Reading} (hlong : 5 ≤ (v ++ [r]).length)
    (hwindow : pushWindow 5 c.window r.temp = lastEntries 5 ((v ++ [r]).map Reading.temp)) :
    Settled dewOf (v ++ [r]) (idealProcess cfg dewOf c r) ∧
      (idealProcess cfg dewOf c r).relay =
        hysteresis cfg.marginOn cfg.marginOff c.relay (readingsMargin dewOf (v ++ [r])) := by
  have hfull : ¬ (pushWindow 5 c.window r.temp).length < 5 := by
    rw [hwindow, length_lastEntries, List.length_map]
    omega
  have hlast : (v ++ [r]).getLast?.map Reading.humidity = some r.humidity := by
    rw [List.getLast?_concat]
    rfl
  unfold idealProcess
  simp only [if_neg hfull]
  constructor
  · refine ⟨hlong, rfl, hwindow, rfl, rfl, ?_, ?_, rfl⟩
    · rw [hwindow]
    · rw [hlast]
      rfl
  · rw [readingsMargin, hlast, hwindow]
    rfl

variable (cfg) in
/-- One more reading keeps it settled, and the margin of the readings moves the relay. -/
theorem Settled.reading {v : List Reading} (h : Settled dewOf v c) (r : Reading) :
    Settled dewOf (v ++ [r]) (idealUpdate cfg dewOf c (some r)).1 ∧
      (idealUpdate cfg dewOf c (some r)).1.relay =
        hysteresis cfg.marginOn cfg.marginOff c.relay (readingsMargin dewOf (v ++ [r])) := by
  have hunlocked : c.mode ≠ .locked := by
    rw [h.running]
    rintro ⟨⟩
  have hready : readingsIgnored cfg c = 0 := by
    rw [readingsIgnored, h.running]
    rfl
  have hlong := h.long
  rw [idealUpdate_processed hunlocked hready]
  apply settled_idealProcess
  · rw [List.length_append]
    omega
  · rw [h.window, List.map_append, List.map_singleton, lastEntries_snoc]

variable (dewOf) in
/-- Five readings past the ignored ones settle a controller. -/
theorem settled_afterReadings (hinv : IdealInv cfg c) (hunlocked : c.mode ≠ .locked)
    {v : List Reading} (hlong : readingsIgnored cfg c + 5 ≤ v.length) :
    Settled dewOf v (afterReadings cfg dewOf c v) := by
  rcases List.eq_nil_or_concat v with rfl | ⟨u, r, rfl⟩
  · rw [List.length_nil] at hlong
    omega
  rw [List.concat_eq_append] at hlong ⊢
  rw [List.length_append, List.length_singleton] at hlong
  -- the last reading is processed, and it pushes what was before `u` out of the window
  have hrun := readingsRun dewOf hinv hunlocked u
  have hready : readingsIgnored cfg (afterReadings cfg dewOf c u) = 0 := by
    rw [hrun.ignored]
    omega
  rw [afterReadings_snoc, idealUpdate_processed hrun.unlocked hready]
  have hlength : (u ++ [r]).length = u.length + 1 := List.length_append
  have hwindow := (readingsRun dewOf hinv hunlocked (u ++ [r])).window
  rw [afterReadings_snoc, idealUpdate_processed hrun.unlocked hready, window_idealProcess,
    List.map_drop, lastEntries_append_of_le, lastEntries_drop] at hwindow
  · exact (settled_idealProcess (by omega) hwindow).1
  · rw [List.length_map]
    omega
  · rw [List.length_drop, List.length_map]
    omega

variable (cfg) in
/-- On a settled controller the relay is a two-threshold switch on the margins of the readings. -/
theorem Settled.relay_afterReadings {v : List Reading} (h : Settled dewOf v c) (w : List Reading) :
    Settled dewOf (v ++ w) (afterReadings cfg dewOf c w) ∧
      (afterReadings cfg dewOf c w).relay =
        settle cfg.marginOn cfg.marginOff c.relay (marginsAlong dewOf v w) := by
  induction w generalizing c v with
  | nil =>
      rw [List.append_nil]
      exact ⟨h, rfl⟩
  | cons r w ih =>
      obtain ⟨hsettled, hrelay⟩ := h.reading cfg r
      obtain ⟨hend, hrelays⟩ := ih hsettled
      rw [afterReadings_cons]
      refine ⟨?_, ?_⟩
      · rw [← List.append_cons] at hend
        exact hend
      · rw [hrelays, hrelay]
        rfl

end Forgetting

/-! ## Dry air -/

/-- A reading of the humidity `humidity` with a temperature in the band from `lo` to `hi`. -/
def InBand (lo hi : Int) (humidity : Nat) (r : Reading) : Prop :=
  lo ≤ r.temp ∧ r.temp ≤ hi ∧ r.humidity = humidity

/-- The relay is off, and what is in the window is from the band. -/
structure Dry (lo hi : Int) (c : IdealController) : Prop where
  off : c.relay = false
  window : ∀ t ∈ c.window, lo ≤ t ∧ t ≤ hi

section DryAir

variable {cfg : IdealConfig} {dewOf : Int → Nat → Int} {c : IdealController} {lo hi : Int}
  {humidity : Nat}

theorem idealMean_mem {w : List Int} (hw : w ≠ []) (h : ∀ t ∈ w, lo ≤ t ∧ t ≤ hi) :
    lo ≤ idealMean w ∧ idealMean w ≤ hi := by
  have hlen : 0 < w.length := List.length_pos_iff.2 hw
  obtain ⟨hlow, hhigh⟩ := sum_mem_of_forall_mem h
  exact tdiv_mem_of_mul_mem (by omega) hlow hhigh

theorem Dry.process (hsafe : cfg.safeState = false)
    (hdry : ∀ t, lo ≤ t → t ≤ hi → cfg.marginOn ≤ t - dewOf t humidity) (h : Dry lo hi c)
    {r : Reading} (hr : InBand lo hi humidity r) : Dry lo hi (idealProcess cfg dewOf c r) := by
  have hwindow : ∀ t ∈ pushWindow 5 c.window r.temp, lo ≤ t ∧ t ≤ hi := by
    intro t ht
    rcases mem_pushWindow ht with ht | rfl
    · exact h.window t ht
    · exact ⟨hr.1, hr.2.1⟩
  obtain ⟨hlow, hhigh⟩ := idealMean_mem (pushWindow_ne_nil (by decide) _ _) hwindow
  unfold idealProcess
  dsimp only
  split
  · exact ⟨hsafe, hwindow⟩
  · refine ⟨?_, hwindow⟩
    -- the margin of the mean does not fall below the lower threshold
    have hmargin := hdry _ hlow hhigh
    rw [← hr.2.2] at hmargin
    show hysteresis cfg.marginOn cfg.marginOff c.relay _ = false
    rw [h.off, hysteresis, if_neg Bool.false_ne_true]
    exact decide_eq_false (Int.not_lt.2 hmargin)

/-- As long as every temperature of the band has a margin to the dew point, readings from the band
and refused samples leave the relay off. -/
theorem Dry.update (hsafe : cfg.safeState = false)
    (hdry : ∀ t, lo ≤ t → t ≤ hi → cfg.marginOn ≤ t - dewOf t humidity) (h : Dry lo hi c)
    (reading : Option Reading) (hreading : ∀ r, reading = some r → InBand lo hi humidity r) :
    Dry lo hi (idealUpdate cfg dewOf c reading).1 := by
  unfold idealUpdate
  split
  · exact ⟨hsafe, h.window⟩
  · cases reading with
    | none =>
        dsimp only [idealRefuse]
        split
        · exact ⟨hsafe, h.window⟩
        · exact ⟨h.off, h.window⟩
    | some r =>
        dsimp only
        split
        · exact ⟨h.off, h.window⟩
        · exact h.process hsafe hdry (hreading r rfl)

end DryAir

end ClimateNode.Core
