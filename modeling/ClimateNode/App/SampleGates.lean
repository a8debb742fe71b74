import Mathlib.Logic.Function.Iterate
import Mathlib.Tactic.Linarith

/-!
# Two period gates in a row

A task that the scheduler runs once per second holds a period gate of its own: it takes a sample
only when its next due time has come. `Gates` keeps the times of the two gates in unbounded
milliseconds, relative to the last sample, and `Gates.tick` is one millisecond of the loop. While
the period is at most two seconds the last sample is never older than that (`Gates.Fed`); every
period leaves the times small enough for a wrapped clock (`Gates.Bounded`). After a sample with a
later due time it gets older than two seconds (`Gates.since_starved`). The outer gate opens on a
grid of whole seconds (`Gates.OnGrid`), which decides when samples are one period apart
(`Gates.isChain_sampleTicks_iff`).
-/

set_option autoImplicit false

namespace ClimateNode.Application

/-- The two gates: the period of the inner one, its next due time and the time now, both in ms after
the last sample, and the ms until the outer gate opens. -/
structure Gates where
  period : Nat
  next : Nat
  since : Nat
  wait : Nat
  deriving DecidableEq, Repr

namespace Gates

/-- Both gates are open. -/
def Samples (g : Gates) : Prop := g.wait = 0 ∧ g.next ≤ g.since

instance (g : Gates) : Decidable g.Samples := by
  unfold Samples
  infer_instance

/-- The next due time after a sample: one period after the last due time, or one period from now
when that has passed. -/
def nextDue (g : Gates) : Nat :=
  if g.next + g.period < g.since then g.period else g.next + g.period - g.since

/-- One millisecond. A sample is taken when both gates are open; then the period may change. -/
def tick (g : Gates) (newPeriod : Option Nat) : Gates where
  period := newPeriod.getD g.period
  next := if g.Samples then g.nextDue else g.next
  since := if g.Samples then 1 else g.since + 1
  wait := if g.wait = 0 then 999 else g.wait - 1

/-- The gates at boot. -/
def boot : Gates := ⟨1000, 0, 0, 0⟩

/-- The times stay small for every period a 16-bit register can hold. -/
structure Bounded (g : Gates) : Prop where
  period_le : g.period ≤ 65535
  next_le : g.next ≤ 65535
  wait_lt : g.wait < 1000
  since_le : g.since + g.wait ≤ g.next + 1000

/-- The gates while every period has been at most two seconds: the outer gate opens next one or two
seconds after the last sample. -/
structure Fed (g : Gates) : Prop where
  period_le : g.period ≤ 2000
  next_le : g.next ≤ 2000
  phase : (g.since = 0 ∧ g.wait = 0 ∧ g.next = 0) ∨ g.since + g.wait = 1000 ∨
    g.since + g.wait = 2000

theorem bounded_boot : boot.Bounded := ⟨by decide, by decide, by decide, by decide⟩

theorem fed_boot : boot.Fed := ⟨by decide, by decide, Or.inl ⟨rfl, rfl, rfl⟩⟩

variable {g : Gates}

/-- A sample is never due earlier than the last one, and at most one period later than now. -/
theorem nextDue_le (h : g.Samples) : g.nextDue ≤ g.period := by
  obtain ⟨-, hle⟩ := h
  unfold nextDue
  split
  · exact Nat.le_refl _
  · omega

theorem tick_of_samples (hs : g.Samples) (newPeriod : Option Nat) :
    g.tick newPeriod = ⟨newPeriod.getD g.period, g.nextDue, 1, 999⟩ := by
  simp only [Gates.tick, if_pos hs, if_pos hs.1]

theorem tick_of_not_samples (hs : ¬ g.Samples) (newPeriod : Option Nat) :
    g.tick newPeriod = ⟨newPeriod.getD g.period, g.next, g.since + 1,
      if g.wait = 0 then 999 else g.wait - 1⟩ := by
  simp only [Gates.tick, if_neg hs]

/-- The period after a tick keeps the bound of the old and the new one. -/
theorem getD_period_le {newPeriod : Option Nat} {period bound : Nat} (h : period ≤ bound)
    (hp : ∀ p, newPeriod = some p → p ≤ bound) : newPeriod.getD period ≤ bound := by
  cases newPeriod with
  | none => exact h
  | some p => exact hp p rfl

/-- What a tick can do: take a sample, find the inner gate closed at the outer one's turn, or let
the time to that turn run down. -/
theorem tick_cases (g : Gates) (newPeriod : Option Nat) :
    (g.Samples ∧ g.tick newPeriod = ⟨newPeriod.getD g.period, g.nextDue, 1, 999⟩) ∨
      (g.wait = 0 ∧ g.since < g.next ∧
        g.tick newPeriod = ⟨newPeriod.getD g.period, g.next, g.since + 1, 999⟩) ∨
      (g.wait ≠ 0 ∧ g.since + 1 + (g.wait - 1) = g.since + g.wait ∧
        g.tick newPeriod = ⟨newPeriod.getD g.period, g.next, g.since + 1, g.wait - 1⟩) := by
  by_cases hs : g.Samples
  · exact Or.inl ⟨hs, tick_of_samples hs newPeriod⟩
  · rw [tick_of_not_samples hs]
    by_cases hw : g.wait = 0
    · rw [if_pos hw]
      exact Or.inr (Or.inl ⟨hw, Nat.lt_of_not_le fun hle => hs ⟨hw, hle⟩, rfl⟩)
    · rw [if_neg hw]
      exact Or.inr (Or.inr ⟨hw, by omega, rfl⟩)

theorem Bounded.tick (h : g.Bounded) {newPeriod : Option Nat}
    (hp : ∀ p, newPeriod = some p → p ≤ 65535) : (g.tick newPeriod).Bounded := by
  have hperiod := getD_period_le h.period_le hp
  rcases g.tick_cases newPeriod with ⟨hs, htick⟩ | ⟨hw, hlt, htick⟩ | ⟨hw, hsum, htick⟩
  · rw [htick]
    exact ⟨hperiod, (nextDue_le hs).trans h.period_le, (by decide : 999 < 1000),
      Nat.le_add_left _ _⟩
  · -- the inner gate is still closed
    rw [htick]
    refine ⟨hperiod, h.next_le, (by decide : 999 < 1000), ?_⟩
    show g.since + 1 + 999 ≤ g.next + 1000
    omega
  · rw [htick]
    exact ⟨hperiod, h.next_le, (Nat.sub_le _ _).trans_lt h.wait_lt, hsum.trans_le h.since_le⟩

theorem Fed.tick (h : g.Fed) {newPeriod : Option Nat}
    (hp : ∀ p, newPeriod = some p → p ≤ 2000) : (g.tick newPeriod).Fed := by
  have hperiod := getD_period_le h.period_le hp
  rcases g.tick_cases newPeriod with ⟨hs, htick⟩ | ⟨hw, hlt, htick⟩ | ⟨hw, hsum, htick⟩
  · rw [htick]
    exact ⟨hperiod, (nextDue_le hs).trans h.period_le, Or.inr (Or.inl rfl)⟩
  · -- two seconds after the last sample the inner gate would be open
    have hnext := h.next_le
    have hphase := h.phase
    rw [htick]
    refine ⟨hperiod, hnext, Or.inr (Or.inr ?_)⟩
    show g.since + 1 + 999 = 2000
    omega
  · rw [htick]
    refine ⟨hperiod, h.next_le, Or.inr ?_⟩
    simp only [hsum]
    exact h.phase.resolve_left fun hboot => hw hboot.2.1

/-- Until the outer gate opens nothing but the time changes. -/
theorem tick_none_iterate (k : Nat) :
    ∀ {g : Gates}, k ≤ g.wait →
      (fun g : Gates => g.tick none)^[k] g = ⟨g.period, g.next, g.since + k, g.wait - k⟩ := by
  induction k with
  | zero => exact fun _ => rfl
  | succ k ih =>
      intro g hk
      have hw : g.wait ≠ 0 := by omega
      have hs : ¬ g.Samples := fun hs => hw hs.1
      have htick : g.tick none = ⟨g.period, g.next, g.since + 1, g.wait - 1⟩ := by
        simp only [Gates.tick, if_neg hs, if_neg hw, Option.getD_none]
      have hk' : k ≤ (g.tick none).wait := by
        rw [htick]
        exact Nat.le_sub_one_of_lt hk
      rw [Function.iterate_succ_apply, ih hk', htick, Nat.add_right_comm, Nat.sub_right_comm]
      rfl

/-- The outer gate's next turn comes when its wait has run down. -/
theorem tick_none_opening (g : Gates) :
    (fun g : Gates => g.tick none)^[g.wait + 1] g =
      (⟨g.period, g.next, g.since + g.wait, 0⟩ : Gates).tick none := by
  rw [Function.iterate_succ_apply', tick_none_iterate g.wait (Nat.le_refl _), Nat.sub_self]

/-- With a due time later than two seconds after the sample, the outer gate opens twice and no
sample is taken. -/
theorem since_starved (hnext : 2000 < g.next) (hsince : g.since = 1) (hwait : g.wait = 999) :
    ((fun g : Gates => g.tick none)^[2000] g).since = 2001 := by
  obtain ⟨p, n, s, w⟩ := g
  obtain rfl : s = 1 := hsince
  obtain rfl : w = 999 := hwait
  have hclosed : ∀ s, s ≤ 2000 → (⟨p, n, s, 0⟩ : Gates).tick none = ⟨p, n, s + 1, 999⟩ := by
    intro s hle
    have hs : ¬ (⟨p, n, s, 0⟩ : Gates).Samples := fun hs =>
      absurd (Nat.lt_of_lt_of_le hnext hs.2) (Nat.not_lt.2 hle)
    simp only [Gates.tick, if_neg hs, if_true, Option.getD_none]
  have hsecond : ∀ s, s ≤ 1001 →
      (fun g : Gates => g.tick none)^[1000] ⟨p, n, s, 999⟩ = ⟨p, n, s + 1000, 999⟩ := by
    intro s hle
    calc (fun g : Gates => g.tick none)^[1000] ⟨p, n, s, 999⟩
        = (⟨p, n, s + 999, 0⟩ : Gates).tick none := tick_none_opening ⟨p, n, s, 999⟩
      _ = ⟨p, n, s + 1000, 999⟩ := hclosed (s + 999) (by omega)
  rw [show 2000 = 1000 + 1000 from rfl, Function.iterate_add_apply, hsecond 1 (by decide),
    hsecond 1001 (by decide)]

theorem Fed.since_le (h : g.Fed) : g.since ≤ 2000 := by
  rcases h.phase with ⟨h0, -, -⟩ | h1 | h2
  · omega
  · omega
  · omega

/-! ## The spacing of the samples -/

/-- The times of the samples within `n` ms, counted from `k` on, while the period stays. -/
def sampleTicks : Nat → Nat → Gates → List Nat
  | 0, _, _ => []
  | n + 1, k, g => (if g.Samples then [k] else []) ++ sampleTicks n (k + 1) (g.tick none)

theorem sampleTicks_of_samples (hs : g.Samples) (n k : Nat) :
    sampleTicks (n + 1) k g = k :: sampleTicks n (k + 1) (g.tick none) := by
  rw [sampleTicks, if_pos hs, List.singleton_append]

theorem sampleTicks_of_not_samples (hs : ¬ g.Samples) (n k : Nat) :
    sampleTicks (n + 1) k g = sampleTicks n (k + 1) (g.tick none) := by
  rw [sampleTicks, if_neg hs, List.nil_append]

/-- The gates after a boot at any tick and a first sample in it: both next times are those of a
millisecond clock that started at zero, or a second from now when that has passed. -/
def booted (tick : Nat) : Gates where
  period := 1000
  next := if 1000 < tick then 1000 else 1000 - tick
  since := 1
  wait := (if 1000 ≤ tick then 1000 else 1000 - tick) - 1

/-- The outer gate opens whole seconds after the last sample, or the first time when the second
sample is due. The inner one lets the first opening pass that is not before its due time, and none
earlier; only when the due time is that of the last sample itself is it a second late. -/
structure OnGrid (g : Gates) : Prop where
  grid : 1000 ∣ g.since + g.wait ∨ g.since + g.wait = g.next
  opens : g.since + g.wait < g.next + 1000 ∨ g.next = 0 ∧ g.since + g.wait = 1000

theorem booted_early {tick : Nat} (h : tick < 1000) :
    booted tick = ⟨1000, 1000 - tick, 1, 1000 - tick - 1⟩ := by
  simp only [booted, if_neg (Nat.not_lt.2 (Nat.le_of_lt h)), if_neg (Nat.not_le.2 h)]

theorem booted_late {tick : Nat} (h : 1000 < tick) : booted tick = ⟨1000, 1000, 1, 999⟩ := by
  simp only [booted, if_pos h, if_pos (Nat.le_of_lt h)]

theorem bounded_booted (tick : Nat) : (booted tick).Bounded := by
  rcases Nat.lt_trichotomy tick 1000 with hlt | rfl | hgt
  · rw [booted_early hlt]
    constructor <;> simp only <;> omega
  · exact ⟨by decide, by decide, by decide, by decide⟩
  · rw [booted_late hgt]
    exact ⟨by decide, by decide, by decide, by decide⟩

theorem onGrid_booted (tick : Nat) : (booted tick).OnGrid := by
  rcases Nat.lt_trichotomy tick 1000 with hlt | rfl | hgt
  · -- the second sample is due at the first opening
    have hsum : 1 + (1000 - tick - 1) = 1000 - tick := by omega
    rw [booted_early hlt]
    exact ⟨Or.inr hsum, Or.inl (hsum.trans_lt (Nat.lt_add_of_pos_right (by decide)))⟩
  · exact ⟨Or.inl ⟨1, rfl⟩, Or.inr ⟨rfl, rfl⟩⟩
  · rw [booted_late hgt]
    exact ⟨Or.inl ⟨1, rfl⟩, Or.inl (by decide)⟩

/-- Openings that are whole seconds after the last sample stay so. -/
theorem dvd_tick (h : 1000 ∣ g.since + g.wait) (newPeriod : Option Nat) :
    1000 ∣ (g.tick newPeriod).since + (g.tick newPeriod).wait := by
  rcases g.tick_cases newPeriod with ⟨hs, htick⟩ | ⟨hw, hlt, htick⟩ | ⟨hw, hsum, htick⟩
  · rw [htick]
    exact ⟨1, rfl⟩
  · rw [htick]
    show 1000 ∣ g.since + 1 + 999
    omega
  · rw [htick]
    simp only [hsum]
    exact h

theorem OnGrid.tick (h : g.OnGrid) (newPeriod : Option Nat) : (g.tick newPeriod).OnGrid := by
  rcases g.tick_cases newPeriod with ⟨hs, htick⟩ | ⟨hw, hlt, htick⟩ | ⟨hw, hsum, htick⟩
  · rw [htick]
    refine ⟨Or.inl ⟨1, rfl⟩, ?_⟩
    rcases Nat.eq_zero_or_pos g.nextDue with hzero | hpos
    · exact Or.inr ⟨hzero, rfl⟩
    · exact Or.inl (Nat.lt_add_of_pos_left hpos)
  · -- the due time is after this opening, so the opening is on the grid
    have hwhole : 1000 ∣ g.since + g.wait := by
      refine h.grid.resolve_right fun heq => Nat.ne_of_lt hlt ?_
      rw [hw, Nat.add_zero] at heq
      exact heq
    refine ⟨Or.inl (dvd_tick hwhole newPeriod), Or.inl ?_⟩
    rw [htick]
    show g.since + 1 + 999 < g.next + 1000
    omega
  · rw [htick]
    constructor
    · simp only [hsum]
      exact h.grid
    · simp only [hsum]
      exact h.opens

theorem since_pos_tick (newPeriod : Option Nat) : 0 < (g.tick newPeriod).since := by
  rcases g.tick_cases newPeriod with ⟨-, htick⟩ | ⟨-, -, htick⟩ | ⟨-, -, htick⟩
  · rw [htick]
    exact Nat.one_pos
  · rw [htick]
    exact Nat.succ_pos _
  · rw [htick]
    exact Nat.succ_pos _

/-- The gates after a sample, when all samples to come are one period apart: the period is a number
of whole seconds, and the due time is less than a second before the opening it lets pass. -/
structure Steady (g : Gates) : Prop where
  whole : 1000 ∣ g.period
  grid : 1000 ∣ g.since + g.wait
  since_pos : 0 < g.since
  next_le : g.next ≤ g.period
  phase_le : g.since + g.wait ≤ g.period
  close : g.period < g.next + 1000 ∨ g.period = 1000

/-- The next sample is taken one period after the last one. -/
theorem Steady.since_eq (h : g.Steady) (hs : g.Samples) : g.since = g.period := by
  obtain ⟨hwhole, hgrid, hpos, -, hle, hclose⟩ := h
  obtain ⟨hw, hdue⟩ := hs
  rw [hw, Nat.add_zero] at hgrid hle
  rcases hclose with hclose | hclose
  · omega
  · omega

theorem Steady.tick (h : g.Steady) : (g.tick none).Steady := by
  have hgrid := dvd_tick h.grid none
  have hsince := since_pos_tick (g := g) none
  rcases g.tick_cases none with ⟨hs, htick⟩ | ⟨hw, hlt, htick⟩ | ⟨hw, hsum, htick⟩
  · -- the due time moves with the sample
    have hdue : g.nextDue = g.next := by
      rw [nextDue, h.since_eq hs, if_neg (Nat.not_lt.2 (Nat.le_add_left _ _)), Nat.add_sub_cancel]
    rw [htick, hdue] at hgrid hsince ⊢
    refine ⟨h.whole, hgrid, hsince, h.next_le, ?_, h.close⟩
    exact Nat.le_of_dvd (h.since_eq hs ▸ h.since_pos) h.whole
  · -- both are numbers of whole seconds
    have hbefore := h.grid
    have hwhole := h.whole
    have hle := h.next_le
    rw [hw, Nat.add_zero] at hbefore
    rw [htick] at hgrid hsince ⊢
    refine ⟨hwhole, hgrid, hsince, hle, ?_, h.close⟩
    show g.since + 1 + 999 ≤ g.period
    omega
  · rw [htick] at hgrid hsince ⊢
    exact ⟨h.whole, hgrid, hsince, h.next_le, hsum.trans_le h.phase_le, h.close⟩

/-- With a period of whole seconds the first sample makes the gates steady, unless its due time was
that of the sample before it. -/
theorem OnGrid.steady_tick (h : g.OnGrid) (hs : g.Samples) (hpos : 0 < g.period)
    (hwhole : 1000 ∣ g.period) (hnext : g.period = 1000 ∨ g.next ≠ 0) :
    (g.tick none).Steady := by
  obtain ⟨hgrid, hopens⟩ := h
  rw [tick_of_samples hs]
  obtain ⟨hw, hdue⟩ := hs
  rw [hw, Nat.add_zero] at hgrid hopens
  have hthousand : 1000 ≤ g.period := Nat.le_of_dvd hpos hwhole
  have hnot : ¬ g.next + g.period < g.since := by
    rcases hopens with hlt | ⟨hzero, hsecond⟩
    · omega
    · omega
  rw [nextDue, if_neg hnot]
  refine ⟨hwhole, ⟨1, rfl⟩, Nat.one_pos, ?_, hthousand, ?_⟩
  · show g.next + g.period - g.since ≤ g.period
    omega
  · show g.period < g.next + g.period - g.since + 1000 ∨ g.period = 1000
    rcases hopens with hlt | ⟨hzero, hsecond⟩
    · exact Or.inl (by omega)
    · exact Or.inr (hnext.resolve_right (not_not_intro hzero))

/-- Steady gates take all samples one period apart. -/
theorem Steady.isChain_sampleTicks (n : Nat) : ∀ {g : Gates} (last : Nat), g.Steady →
    (last :: sampleTicks n (last + g.since) g).IsChain fun a b => b = a + g.period := by
  induction n with
  | zero => exact fun _ _ => .singleton _
  | succ n ih =>
      intro g last h
      by_cases hs : g.Samples
      · have hrest := ih (last + g.since) h.tick
        rw [tick_of_samples hs] at hrest
        rw [sampleTicks_of_samples hs, tick_of_samples hs]
        refine List.isChain_cons_cons.2 ⟨?_, hrest⟩
        rw [h.since_eq hs]
      · have hrest := ih last h.tick
        rw [tick_of_not_samples hs] at hrest
        rw [sampleTicks_of_not_samples hs, tick_of_not_samples hs]
        exact hrest

/-- From the first sample on, all samples are one period apart. -/
theorem OnGrid.isChain_sampleTicks (n : Nat) : ∀ {g : Gates} {k : Nat}, g.OnGrid → 0 < g.period →
    1000 ∣ g.period → (g.period = 1000 ∨ g.next ≠ 0) →
    (sampleTicks n k g).IsChain fun a b => b = a + g.period := by
  induction n with
  | zero => exact fun _ _ _ _ => .nil
  | succ n ih =>
      intro g k h hpos hwhole hnext
      by_cases hs : g.Samples
      · have hrest := (h.steady_tick hs hpos hwhole hnext).isChain_sampleTicks n k
        rw [tick_of_samples hs] at hrest
        rw [sampleTicks_of_samples hs, tick_of_samples hs]
        exact hrest
      · have htick := h.tick none
        rw [tick_of_not_samples hs] at htick
        rw [sampleTicks_of_not_samples hs, tick_of_not_samples hs]
        exact ih htick hpos hwhole hnext

/-- `g'` is what `g` is at its next sample, `m` ms later. -/
structure NextSample (g g' : Gates) (m : Nat) : Prop where
  samples : g'.Samples
  period : g'.period = g.period
  next : g'.next = g.next
  since : g'.since = g.since + m
  bounded : g'.Bounded
  whole : 1000 ∣ g.since + g.wait → 1000 ∣ g'.since + g'.wait
  grid : g.OnGrid → g'.OnGrid
  ticks : ∀ n k, sampleTicks (m + 1 + n) k g = (k + m) :: sampleTicks n (k + m + 1) (g'.tick none)

/-- The inner gate cannot stay closed: its due time passes. -/
theorem exists_nextSample (h : g.Bounded) : ∃ g' m, NextSample g g' m := by
  have key : ∀ f (g : Gates), g.Bounded → g.next + 1001 ≤ g.since + f →
      ∃ g' m, NextSample g g' m := by
    intro f
    induction f with
    | zero =>
        intro g h hf
        have := h.since_le
        omega
    | succ f ih =>
        intro g h hf
        by_cases hs : g.Samples
        · refine ⟨g, 0, hs, rfl, rfl, rfl, h, id, id, fun n k => ?_⟩
          rw [Nat.zero_add, Nat.add_comm 1 n, sampleTicks_of_samples hs]
          rfl
        · have htick := tick_of_not_samples hs none
          obtain ⟨g', m, hnext⟩ := ih (g.tick none) (h.tick (by rintro p ⟨⟩)) (by
            rw [htick]
            show g.next + 1001 ≤ g.since + 1 + f
            omega)
          refine ⟨g', m + 1, hnext.samples, ?_, ?_, ?_, hnext.bounded,
            fun hg => hnext.whole (dvd_tick hg none), fun hg => hnext.grid (hg.tick none),
            fun n k => ?_⟩
          · exact hnext.period.trans (by rw [htick]; rfl)
          · exact hnext.next.trans (by rw [htick])
          · rw [hnext.since, htick]
            show g.since + 1 + m = g.since + (m + 1)
            omega
          · rw [show m + 1 + 1 + n = m + 1 + n + 1 from Nat.add_right_comm _ _ _,
              sampleTicks_of_not_samples hs, hnext.ticks, Nat.add_right_comm k 1 m]
            rfl
  exact key (g.next + 1001) g h (Nat.le_add_left _ _)

/-- A sample on the grid whose due time was that of the sample before comes a second after it. -/
theorem OnGrid.since_of_next_zero (h : g.OnGrid) (hs : g.Samples) (hzero : g.next = 0)
    (hpos : 0 < g.since) : g.since = 1000 := by
  have hgrid := h.grid
  have hopens := h.opens
  rw [hs.1, Nat.add_zero] at hgrid hopens
  omega

/-- When the samples are one period apart, so are the first two of them. -/
theorem NextSample.gap {g₁ g₂ : Gates} {m₁ m₂ p : Nat} (h₁ : NextSample g g₁ m₁)
    (h₂ : NextSample (g₁.tick none) g₂ m₂)
    (hchain : ∀ n, (sampleTicks n 0 g).IsChain fun a b => b = a + p) : g₂.since = p := by
  have htwo := hchain (m₁ + 1 + (m₂ + 1 + 0))
  rw [h₁.ticks, h₂.ticks] at htwo
  have hstep := (List.isChain_cons_cons.1 htwo).1
  rw [h₂.since, tick_of_samples h₁.samples]
  show 1 + m₂ = p
  omega

/-- The samples are always one period apart exactly when the period is a number of whole seconds
and, unless it is one second, the next due time is not that of the last sample. -/
theorem isChain_sampleTicks_iff (hb : g.Bounded) (hg : g.OnGrid) (hsince : 0 < g.since)
    (hpos : 0 < g.period) :
    (∀ n, (sampleTicks n 0 g).IsChain fun a b => b = a + g.period) ↔
      1000 ∣ g.period ∧ (g.period = 1000 ∨ g.next ≠ 0) := by
  obtain ⟨g₁, m₁, h₁⟩ := exists_nextSample hb
  have hg₁ := h₁.grid hg
  have hsince₁ : 0 < g₁.since := by
    rw [h₁.since]
    exact Nat.add_pos_left hsince m₁
  constructor
  · intro hchain
    have hb₁ : (g₁.tick none).Bounded := h₁.bounded.tick (by rintro p ⟨⟩)
    obtain ⟨g₂, m₂, h₂⟩ := exists_nextSample hb₁
    have hg₂ := h₂.grid (hg₁.tick none)
    have hgap := h₁.gap h₂ hchain
    have hwhole : 1000 ∣ g.period := by
      have hgrid := h₂.whole (by rw [tick_of_samples h₁.samples]; exact ⟨1, rfl⟩)
      rw [h₂.samples.1, Nat.add_zero, hgap] at hgrid
      exact hgrid
    refine ⟨hwhole, ?_⟩
    by_contra hnot
    obtain ⟨hsecond, hzero⟩ := not_or.1 hnot
    have hzero : g₁.next = 0 := h₁.next.trans (not_not.1 hzero)
    -- the first sample is then taken after one second, and the due time is left behind
    have hfirst := hg₁.since_of_next_zero h₁.samples hzero hsince₁
    have hnext₂ : g₂.next = g.period - 1000 := by
      rw [h₂.next, tick_of_samples h₁.samples]
      show g₁.nextDue = g.period - 1000
      rw [nextDue, hzero, hfirst, h₁.period, if_neg (by omega), Nat.zero_add]
    have hopens := hg₂.opens
    rw [h₂.samples.1, Nat.add_zero, hgap, hnext₂] at hopens
    omega
  · rintro ⟨hwhole, hnext⟩ n
    exact hg.isChain_sampleTicks n hpos hwhole hnext

end Gates

end ClimateNode.Application
