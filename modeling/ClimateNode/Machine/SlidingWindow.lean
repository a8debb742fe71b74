import Mathlib.Algebra.Order.BigOperators.Group.List
import Mathlib.Algebra.Order.Ring.Int
import Mathlib.Data.List.MinMax

/-!
# Sliding windows, the rings that hold them, and streaks

The window of size `n` over a sequence of inputs holds the last `n` of them, or all while there are
fewer (`pushWindow`, `lastEntries_snoc`). A ring keeps the window in an array of `n` cells: it
writes at `head`, counts up to `n`, and then overwrites the oldest input. `ringContents` reads the
window back from the array, oldest first, and the two ring steps, filling and replacing, push onto
it (`ringContents_fill`, `ringContents_replace`).

The streak of a property is the number of inputs at the end of the sequence that all have it.
-/

set_option autoImplicit false

namespace ClimateNode.Machine

universe u v

variable {α : Type u}

/-! ## Windows -/

/-- The window of size `n` after `x` has arrived. -/
def pushWindow (n : Nat) (w : List α) (x : α) : List α := (w ++ [x]).drop (w.length + 1 - n)

theorem pushWindow_of_lt {n : Nat} {w : List α} (h : w.length < n) (x : α) :
    pushWindow n w x = w ++ [x] := by
  have h0 : w.length + 1 - n = 0 := by omega
  rw [pushWindow, h0, List.drop_zero]

theorem pushWindow_of_full {n : Nat} {w : List α} (h : w.length = n) (hn : 0 < n) (x : α) :
    pushWindow n w x = w.tail ++ [x] := by
  have h1 : w.length + 1 - n = 1 := by omega
  cases w with
  | nil =>
      simp at h
      omega
  | cons y w => rw [pushWindow, h1, List.cons_append, List.drop_one, List.tail_cons, List.tail_cons]

theorem pushWindow_ne_nil {n : Nat} (hn : 0 < n) (w : List α) (x : α) : pushWindow n w x ≠ [] := by
  refine List.ne_nil_of_length_pos ?_
  rw [pushWindow, List.length_drop, List.length_append, List.length_singleton]
  omega

theorem length_pushWindow {n : Nat} {w : List α} (h : w.length ≤ n) (hn : 0 < n) (x : α) :
    (pushWindow n w x).length = min (w.length + 1) n := by
  simp only [pushWindow, List.length_drop, List.length_append, List.length_singleton]
  omega

theorem mem_pushWindow {n : Nat} {w : List α} {x y : α} (h : y ∈ pushWindow n w x) :
    y ∈ w ∨ y = x := by
  have := List.mem_of_mem_drop h
  simpa using this

theorem map_pushWindow {β : Type v} (f : α → β) (n : Nat) (w : List α) (x : α) :
    (pushWindow n w x).map f = pushWindow n (w.map f) (f x) := by
  rw [pushWindow, pushWindow, List.map_drop, List.map_append, List.map_singleton, List.length_map]

/-- The last `n` entries of a list, or all while there are fewer. -/
def lastEntries (n : Nat) (xs : List α) : List α := xs.drop (xs.length - n)

theorem length_lastEntries (n : Nat) (xs : List α) :
    (lastEntries n xs).length = min xs.length n := by
  rw [lastEntries, List.length_drop]
  omega

theorem mem_of_mem_lastEntries {n : Nat} {xs : List α} {x : α} (h : x ∈ lastEntries n xs) :
    x ∈ xs := List.mem_of_mem_drop h

/-- One more input moves the window. -/
theorem lastEntries_snoc (n : Nat) (xs : List α) (x : α) :
    lastEntries n (xs ++ [x]) = pushWindow n (lastEntries n xs) x := by
  have hkeep : xs.length - n ≤ xs.length := Nat.sub_le _ _
  have hsum : xs.length - n + ((lastEntries n xs).length + 1 - n) = xs.length + 1 - n := by
    rw [length_lastEntries]
    omega
  rw [pushWindow, lastEntries, List.length_append, List.length_singleton, ← hsum,
    ← List.drop_drop, List.drop_append_of_le_length hkeep]
  rfl

/-- Enough inputs push the ones before them out. -/
theorem lastEntries_append_of_le {n : Nat} (xs : List α) {ys : List α} (h : n ≤ ys.length) :
    lastEntries n (xs ++ ys) = lastEntries n ys := by
  have hsplit : (xs ++ ys).length - n = xs.length + (ys.length - n) := by
    rw [List.length_append]
    omega
  rw [lastEntries, hsplit, List.drop_length_add_append, lastEntries]

/-- Leaving out early inputs does not change the last ones. -/
theorem lastEntries_drop {n k : Nat} {xs : List α} (h : k + n ≤ xs.length) :
    lastEntries n (xs.drop k) = lastEntries n xs := by
  have hle : n ≤ (xs.drop k).length := by
    rw [List.length_drop]
    omega
  rw [← lastEntries_append_of_le (xs.take k) hle, List.take_append_drop]

/-! ## Rings -/

/-- The contents of a ring, oldest first: the array `buf`, the next cell to write `head`, and the
number `count` of cells in use. -/
def ringContents (buf : List α) (head count : Nat) : List α :=
  if count < buf.length then buf.take count else buf.drop head ++ buf.take head

/-- The cell after `head`. -/
def ringNext (n head : Nat) : Nat := if n ≤ head + 1 then 0 else head + 1

theorem ringNext_lt {n head : Nat} (hn : 0 < n) : ringNext n head < n := by
  unfold ringNext
  split <;> omega

/-- Writing to a ring that is not full yet appends the input. -/
theorem ringContents_fill {buf : List α} {count : Nat} (h : count < buf.length) (x : α) :
    ringContents (buf.set count x) (ringNext buf.length count) (count + 1) =
      ringContents buf count count ++ [x] := by
  have htake : (buf.set count x).take (count + 1) = buf.take count ++ [x] := by
    rw [List.take_add_one, List.take_set_of_le (Nat.le_refl _), List.getElem?_set_self h,
      Option.toList_some]
  unfold ringContents ringNext
  rw [if_pos h, List.length_set]
  by_cases hfull : buf.length ≤ count + 1
  · -- the last free cell: the ring is full now and its oldest input is in cell 0
    have hlen : ¬ count + 1 < buf.length := by omega
    have hall : (buf.set count x).take (count + 1) = buf.set count x :=
      List.take_of_length_le (by rw [List.length_set]; omega)
    rw [if_neg hlen, if_pos hfull, List.drop_zero, List.take_zero, List.append_nil, ← hall, htake]
  · rw [if_pos (by omega), htake]

/-- Writing to a full ring drops the oldest input and appends the new one. -/
theorem ringContents_replace {buf : List α} {head count : Nat} (hfull : buf.length ≤ count)
    (h : head < buf.length) (x : α) :
    ringContents (buf.set head x) (ringNext buf.length head) count =
      (ringContents buf head count).tail ++ [x] := by
  have hcount : ¬ count < buf.length := by omega
  have hold : buf.drop head = buf[head] :: buf.drop (head + 1) := List.drop_eq_getElem_cons h
  have htake : (buf.set head x).take (head + 1) = buf.take head ++ [x] := by
    rw [List.take_add_one, List.take_set_of_le (Nat.le_refl _), List.getElem?_set_self h,
      Option.toList_some]
  have hdrop : (buf.set head x).drop (head + 1) = buf.drop (head + 1) :=
    List.drop_set_of_lt (Nat.lt_succ_self _)
  unfold ringContents ringNext
  rw [List.length_set, if_neg hcount, if_neg hcount, hold, List.cons_append, List.tail_cons]
  by_cases hwrap : buf.length ≤ head + 1
  · -- the head wraps to cell 0
    have hall : (buf.set head x).take (head + 1) = buf.set head x :=
      List.take_of_length_le (by rw [List.length_set]; omega)
    have hnone : buf.drop (head + 1) = [] := List.drop_eq_nil_of_le hwrap
    rw [if_pos hwrap, List.drop_zero, List.take_zero, List.append_nil, ← hall, htake, hnone,
      List.nil_append]
  · rw [if_neg hwrap, hdrop, htake, List.append_assoc]

/-- The oldest input of a full ring is the cell about to be overwritten. -/
theorem ringContents_oldest {buf : List α} {head count : Nat} (hfull : buf.length ≤ count)
    (h : head < buf.length) :
    ringContents buf head count = buf[head] :: (ringContents buf head count).tail := by
  have hcount : ¬ count < buf.length := by omega
  have hold : buf.drop head = buf[head] :: buf.drop (head + 1) := List.drop_eq_getElem_cons h
  unfold ringContents
  rw [if_neg hcount, hold, List.cons_append, List.tail_cons]

/-! ## Streaks -/

/-- The number of inputs at the end of `xs` that satisfy `P` without a gap. -/
def streak (P : α → Bool) (xs : List α) : Nat := (xs.reverse.takeWhile P).length

theorem streak_snoc_of_true {P : α → Bool} {x : α} (h : P x = true) (xs : List α) :
    streak P (xs ++ [x]) = streak P xs + 1 := by
  simp [streak, h]

theorem streak_snoc_of_false {P : α → Bool} {x : α} (h : P x = false) (xs : List α) :
    streak P (xs ++ [x]) = 0 := by
  simp [streak, h]

/-! ## Sums over a window -/

/-- A sum of terms between `lo` and `hi` lies between the same multiples of the bounds. -/
theorem sum_mem_of_forall_mem {xs : List Int} {lo hi : Int} (h : ∀ x ∈ xs, lo ≤ x ∧ x ≤ hi) :
    lo * xs.length ≤ xs.sum ∧ xs.sum ≤ hi * xs.length := by
  have hlo := List.card_nsmul_le_sum xs lo fun x hx => (h x hx).1
  have hhi := List.sum_le_card_nsmul xs hi fun x hx => (h x hx).2
  rw [nsmul_eq_mul, Int.mul_comm] at hlo hhi
  exact ⟨hlo, hhi⟩

/-- A list that is not empty has a least and a greatest entry. -/
theorem exists_extremes (f : α → Int) {xs : List α} (h : xs ≠ []) :
    ∃ lo ∈ xs, ∃ hi ∈ xs, ∀ x ∈ xs, f lo ≤ f x ∧ f x ≤ f hi := by
  have hleast : List.argmin f xs ≠ none := mt List.argmin_eq_none.1 h
  have hgreatest : List.argmax f xs ≠ none := mt List.argmax_eq_none.1 h
  obtain ⟨lo, hlo⟩ := Option.ne_none_iff_exists'.1 hleast
  obtain ⟨hi, hhi⟩ := Option.ne_none_iff_exists'.1 hgreatest
  refine ⟨lo, List.argmin_mem hlo, hi, List.argmax_mem hhi, fun x hx => ⟨?_, ?_⟩⟩
  · exact List.le_of_mem_argmin hx hlo
  · exact List.le_of_mem_argmax hx hhi

end ClimateNode.Machine
