import ClimateNode.Machine.Runs
import ClimateNode.Core.Filter

/-!
# The moving average of a history

`maFeed` feeds one input to the filter. The filter that `ma_init` leaves, fed the inputs `xs`, holds
the last five of them (`filter_after_inputs`), so the next update reports their truncated mean:
`moving_average_of_history` says it of histories of every length, while the window is filling and
after it.
-/

set_option autoImplicit false

namespace ClimateNode.Core

open ClimateNode.Machine

/-- Feed one input and keep the filter. -/
def maFeed (f : MaFilter) (x : Int32) : Checked MaFilter := do
  let r ← maUpdate f x
  pure r.filter

/-- What an update reports is the moving average of the inputs `xs`, its own the last of them. -/
structure IsMovingAverage (xs : List Int32) (r : MaStep) : Prop where
  count_eq : r.count.toNat = min xs.length 5
  avg_eq : r.avg.toInt = (windowSum (lastEntries 5 xs)).tdiv (min xs.length 5 : Nat)
  /-- The average is between the least and the greatest of the inputs it is taken of. -/
  between : ∃ lo ∈ lastEntries 5 xs, ∃ hi ∈ lastEntries 5 xs,
    (∀ y ∈ lastEntries 5 xs, lo.toInt ≤ y.toInt ∧ y.toInt ≤ hi.toInt) ∧
      lo.toInt ≤ r.avg.toInt ∧ r.avg.toInt ≤ hi.toInt
  ready : r.err = .ok ↔ 5 ≤ xs.length

/-- A bound on the absolute value is the pair of bounds the sums need. -/
theorem summable5_iff_abs (x : Int32) : Summable5 x ↔ |x.toInt| ≤ (2 ^ 31 - 1) / 5 := by
  have hbound : ((2 : Int) ^ 31 - 1) / 5 = 429496729 := rfl
  rw [hbound, abs_le]
  exact Iff.rfl

section History

variable {f : MaFilter} {xs : List Int32} {x : Int32}

theorem summable5_lastEntries {n : Nat} (h : ∀ y ∈ xs, Summable5 y) :
    ∀ y ∈ lastEntries n xs, Summable5 y :=
  fun y hy => h y (mem_of_mem_lastEntries hy)

/-- A filter that holds the last five inputs reports the average of these and the next input. -/
theorem maUpdate_of_history (hf : FilterHolds f (lastEntries 5 xs))
    (h : ∀ y ∈ xs ++ [x], Summable5 y) :
    ∃ r, maUpdate f x = .ok r ∧ FilterHolds r.filter (lastEntries 5 (xs ++ [x])) ∧
      IsMovingAverage (xs ++ [x]) r := by
  have hxs : ∀ y ∈ lastEntries 5 xs, Summable5 y := by
    apply summable5_lastEntries
    intro y hy
    exact h y (List.mem_append_left [x] hy)
  obtain ⟨r, hr, hholds, havg, hcount, herr⟩ := maUpdate_spec hf hxs (h x (by simp))
  rw [← lastEntries_snoc] at hholds havg hcount herr
  have hlen := length_lastEntries 5 (xs ++ [x])
  have hne : lastEntries 5 (xs ++ [x]) ≠ [] := by
    rw [lastEntries_snoc]
    exact pushWindow_ne_nil (by decide) _ x
  refine ⟨r, hr, hholds, ?_⟩
  constructor
  · rw [hcount, hlen]
  · rw [havg, hlen]
  · obtain ⟨lo, hlo, hi, hhi, hall⟩ := exists_extremes Int32.toInt hne
    refine ⟨lo, hlo, hi, hhi, hall, ?_⟩
    rw [havg]
    exact windowSum_tdiv_mem hne hall
  · rw [herr, hlen]
    by_cases hfull : 5 ≤ (xs ++ [x]).length
    · rw [if_pos (le_min hfull (Nat.le_refl 5))]
      exact ⟨fun _ => hfull, fun _ => rfl⟩
    · rw [if_neg fun hmin => hfull (hmin.trans (Nat.min_le_left _ _))]
      exact ⟨nofun, fun hge => absurd hge hfull⟩

/-- Feeding a history faults nowhere and leaves its last five inputs in the filter. -/
theorem filter_after_inputs (xs : List Int32) (h : ∀ y ∈ xs, Summable5 y) :
    ∃ f, run maFeed maInit xs = .ok f ∧ FilterHolds f (lastEntries 5 xs) := by
  -- the inputs so far stay summable, so the relation carries that too
  have hstep : ∀ xs f x, ((∀ y ∈ xs, Summable5 y) ∧ FilterHolds f (lastEntries 5 xs)) →
      Summable5 x → ∃ g, maFeed f x = .ok g ∧
        (∀ y ∈ xs ++ [x], Summable5 y) ∧ FilterHolds g (lastEntries 5 (xs ++ [x])) := by
    rintro xs f x ⟨hxs, hholds⟩ hx
    have hall : ∀ y ∈ xs ++ [x], Summable5 y := by
      intro y hy
      rcases List.mem_append.1 hy with hy | hy
      · exact hxs y hy
      · rw [List.mem_singleton.1 hy]
        exact hx
    obtain ⟨r, hr, hholds', -⟩ := maUpdate_of_history hholds hall
    refine ⟨r.filter, ?_, hall, hholds'⟩
    simp only [maFeed, hr, checked_ok_bind, checked_pure]
  obtain ⟨f, hf, -, hholds⟩ := run_of_history
    (R := fun xs f => (∀ y ∈ xs, Summable5 y) ∧ FilterHolds f (lastEntries 5 xs))
    ⟨by simp, filterHolds_maInit⟩ hstep xs h
  exact ⟨f, hf, hholds⟩

end History

/-- Fed inputs of at most a fifth of the largest `int32_t`, a filter fresh from `ma_init` never
faults, and every update reports the moving average of the inputs so far. -/
theorem moving_average_of_history (xs : List Int32) (x : Int32)
    (h : ∀ y ∈ xs ++ [x], |y.toInt| ≤ (2 ^ 31 - 1) / 5) :
    ∃ f r, run maFeed maInit xs = .ok f ∧ maUpdate f x = .ok r ∧
      IsMovingAverage (xs ++ [x]) r := by
  have hall : ∀ y ∈ xs ++ [x], Summable5 y := fun y hy => (summable5_iff_abs y).2 (h y hy)
  obtain ⟨f, hf, hholds⟩ := filter_after_inputs xs fun y hy => hall y (List.mem_append_left [x] hy)
  obtain ⟨r, hr, -, haverage⟩ := maUpdate_of_history hholds hall
  exact ⟨f, r, hf, hr, haverage⟩

/-- Six inputs of both signs, so that the window has moved once. -/
theorem moving_average_of_six : ∃ f r,
    run maFeed maInit [1000, 0, -7, 0, 0] = .ok f ∧ maUpdate f 3 = .ok r ∧
      IsMovingAverage ([1000, 0, -7, 0, 0] ++ [3]) r := by
  have hall : ([1000, 0, -7, 0, 0] ++ [3] : List Int32).all
      (fun y => |y.toInt| ≤ (2 ^ 31 - 1) / 5) = true := by decide
  apply moving_average_of_history
  intro y hy
  exact of_decide_eq_true (List.all_eq_true.1 hall y hy)

end ClimateNode.Core
