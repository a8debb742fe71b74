import Mathlib.Data.List.Induction
import Mathlib.Data.List.Rotate
import Mathlib.Data.Nat.ModEq

/-!
# Cyclic buffers

A buffer of fixed length read and written with positions that wrap. `cyclicRead buf pos len` is what
lies in the buffer from `pos` on, across its end. Two uses are covered:

- a queue, which reads at its tail and writes at its tail plus its count (`cyclicRead_push`,
  `cyclicRead_pop`);
- a receiver, which only writes, and whose input is read back later (`cyclicRead_cyclicWrite`), in
  one piece or in two (`cyclicRead_of_le`, `cyclicRead_parts`).

A window that does not cross the end is the plain `take` of a `drop`; `take_drop_set_iff` says when
writing an entry shows in it.
-/

set_option autoImplicit false

namespace ClimateNode.Machine

universe u

variable {α : Type u} {buf : List α} {pos len : Nat}

/-- The `len` entries from `pos` on. -/
def cyclicRead (buf : List α) (pos len : Nat) : List α := (buf.rotate pos).take len

theorem length_cyclicRead (h : len ≤ buf.length) : (cyclicRead buf pos len).length = len := by
  rw [cyclicRead, List.length_take, List.length_rotate, Nat.min_eq_left h]

@[simp] theorem cyclicRead_zero (buf : List α) (pos : Nat) : cyclicRead buf pos 0 = [] := by
  rw [cyclicRead, List.take_zero]

theorem getElem_cyclicRead {i : Nat} (hi : i < (cyclicRead buf pos len).length)
    (hmod : (i + pos) % buf.length < buf.length) :
    (cyclicRead buf pos len)[i] = buf[(i + pos) % buf.length] := by
  simp only [cyclicRead, List.getElem_take, List.getElem_rotate]

/-- Positions less than a whole turn apart are different. -/
theorem add_mod_eq_iff {n i j : Nat} (pos : Nat) (hi : i < n) (hj : j < n) :
    (pos + i) % n = (pos + j) % n ↔ i = j := by
  refine ⟨fun h => ?_, fun h => by rw [h]⟩
  exact Nat.ModEq.eq_of_lt_of_lt (Nat.ModEq.add_left_cancel' pos h) hi hj

/-- Writing right after the entries adds one to them. -/
theorem cyclicRead_push (pos : Nat) (hlen : len < buf.length) (x : α) :
    cyclicRead (buf.set ((pos + len) % buf.length) x) pos (len + 1) =
      cyclicRead buf pos len ++ [x] := by
  have hpos : 0 < buf.length := Nat.zero_lt_of_lt hlen
  have hset : (buf.set ((pos + len) % buf.length) x).length = buf.length := List.length_set
  apply List.ext_getElem
  · rw [length_cyclicRead (by omega), List.length_append, length_cyclicRead (by omega)]
    rfl
  · intro i h₁ h₂
    have hi : i < len + 1 := by rwa [length_cyclicRead (by omega)] at h₁
    have hmod : (i + pos) % buf.length < buf.length := Nat.mod_lt _ hpos
    rw [getElem_cyclicRead h₁ (by rw [hset]; exact hmod), List.getElem_append]
    simp only [hset, List.getElem_set, length_cyclicRead (Nat.le_of_lt hlen)]
    -- the written position is the one after the last entry
    have hiff := add_mod_eq_iff pos hlen (show i < buf.length by omega)
    rw [Nat.add_comm pos i] at hiff
    by_cases hlast : i = len
    · subst hlast
      rw [if_pos (hiff.2 rfl), dif_neg (Nat.lt_irrefl i)]
      simp
    · have hne : ¬ (pos + len) % buf.length = (i + pos) % buf.length :=
        fun h => hlast (hiff.1 h).symm
      rw [if_neg hne, dif_pos (show i < len by omega),
        getElem_cyclicRead (by rw [length_cyclicRead (by omega)]; omega) hmod]

/-- Reading the first entry moves the position by one. -/
theorem cyclicRead_pop (hlen : len < buf.length) (hpos : pos < buf.length) :
    cyclicRead buf pos (len + 1) =
      buf[pos] :: cyclicRead buf ((pos + 1) % buf.length) len := by
  rw [cyclicRead, cyclicRead, List.rotate_mod, ← List.rotate_rotate]
  have hhead : ∃ rest, buf.rotate pos = buf[pos] :: rest := by
    rw [List.rotate_eq_drop_append_take (Nat.le_of_lt hpos), List.drop_eq_getElem_cons hpos]
    exact ⟨_, rfl⟩
  obtain ⟨rest, hrest⟩ := hhead
  have hlength : rest.length + 1 = buf.length := by
    rw [← List.length_rotate buf pos, hrest, List.length_cons]
  rw [hrest, List.take_succ_cons, List.rotate_cons_succ, List.rotate_zero,
    List.take_append_of_le_length (by omega)]

/-- The entries, read before the end of the buffer. -/
theorem cyclicRead_of_le (h : pos + len ≤ buf.length) :
    cyclicRead buf pos len = (buf.drop pos).take len := by
  rw [cyclicRead, List.rotate_eq_drop_append_take (by omega),
    List.take_append_of_le_length (by rw [List.length_drop]; omega)]

/-- The entries, read across the end of the buffer. -/
theorem cyclicRead_of_lt (hpos : pos ≤ buf.length) (hlen : len ≤ buf.length)
    (h : buf.length < pos + len) :
    cyclicRead buf pos len = buf.drop pos ++ buf.take (pos + len - buf.length) := by
  rw [cyclicRead, List.rotate_eq_drop_append_take hpos, List.take_append, List.length_drop,
    List.take_of_length_le (by rw [List.length_drop]; omega), List.take_take,
    Nat.min_eq_left (by omega)]
  congr 2
  omega

/-- The parts of such a read before and after the end of the buffer. -/
theorem cyclicRead_parts (hpos : pos ≤ buf.length) (hlen : len ≤ buf.length)
    (h : buf.length < pos + len) :
    (cyclicRead buf pos len).take (buf.length - pos) = buf.drop pos ∧
      (cyclicRead buf pos len).drop (buf.length - pos) = buf.take (pos + len - buf.length) := by
  have hend : (buf.drop pos).length = buf.length - pos := List.length_drop
  rw [cyclicRead_of_lt hpos hlen h]
  exact ⟨List.take_left' hend, List.drop_left' hend⟩

/-- The buffer after `xs` has been written from `pos` on, one after another. -/
def cyclicWrite (buf : List α) (pos : Nat) : List α → List α
  | [] => buf
  | x :: xs => cyclicWrite (buf.set pos x) ((pos + 1) % buf.length) xs

@[simp] theorem length_cyclicWrite (buf : List α) (pos : Nat) (xs : List α) :
    (cyclicWrite buf pos xs).length = buf.length := by
  induction xs generalizing buf pos with
  | nil => rfl
  | cons x xs ih => rw [cyclicWrite, ih, List.length_set]

/-- The last write goes to the position after the others. -/
theorem cyclicWrite_snoc (hpos : pos < buf.length) (xs : List α) (x : α) :
    cyclicWrite buf pos (xs ++ [x]) =
      (cyclicWrite buf pos xs).set ((pos + xs.length) % buf.length) x := by
  induction xs generalizing buf pos with
  | nil =>
      rw [List.length_nil, Nat.add_zero, Nat.mod_eq_of_lt hpos]
      rfl
  | cons y ys ih =>
      have hnext : (pos + 1) % buf.length < (buf.set pos y).length := by
        rw [List.length_set]
        exact Nat.mod_lt _ (Nat.zero_lt_of_lt hpos)
      have := ih hnext
      rw [List.length_set] at this
      rw [List.cons_append, cyclicWrite, this, cyclicWrite, List.length_cons, Nat.mod_add_mod]
      congr 2
      omega

/-- What was written is read back from where it starts, when it fits. -/
theorem cyclicRead_cyclicWrite (hpos : pos < buf.length) (xs : List α) :
    xs.length ≤ buf.length → cyclicRead (cyclicWrite buf pos xs) pos xs.length = xs := by
  induction xs using List.reverseRecOn with
  | nil => exact fun _ => rfl
  | append_singleton xs x ih =>
      intro hlen
      rw [List.length_append, List.length_singleton] at hlen
      have hlt : xs.length < (cyclicWrite buf pos xs).length := by
        rw [length_cyclicWrite]
        exact hlen
      have hpush := cyclicRead_push pos hlt x
      rw [length_cyclicWrite, ih (by omega)] at hpush
      rw [cyclicWrite_snoc hpos, List.length_append, List.length_singleton, hpush]

/-- A changed entry shows in a window of the buffer exactly when it lies in the window. -/
theorem take_drop_set_iff {place : Nat} (hplace : place < buf.length) (x : α) (pos len : Nat) :
    ((buf.set place x).drop pos).take len = (buf.drop pos).take len ↔
      (pos ≤ place → place < pos + len → x = buf[place]) := by
  constructor
  · intro heq hle hlt
    have hentry := congrArg (fun window => window[place - pos]?) heq
    have hback : pos + (place - pos) = place := by omega
    have hin : place - pos < len := by omega
    rw [List.getElem?_take_of_lt hin, List.getElem?_take_of_lt hin, List.getElem?_drop,
      List.getElem?_drop, hback, List.getElem?_set_self hplace,
      List.getElem?_eq_getElem hplace] at hentry
    exact Option.some.inj hentry
  · intro hsame
    apply List.ext_getElem?
    intro i
    by_cases hi : i < len
    · rw [List.getElem?_take_of_lt hi, List.getElem?_take_of_lt hi, List.getElem?_drop,
        List.getElem?_drop]
      by_cases heq : place = pos + i
      · rw [← heq, List.getElem?_set_self hplace, List.getElem?_eq_getElem hplace,
          hsame (by omega) (by omega)]
      · exact List.getElem?_set_ne heq
    · rw [List.getElem?_eq_none (by rw [List.length_take]; omega),
        List.getElem?_eq_none (by rw [List.length_take]; omega)]

end ClimateNode.Machine
