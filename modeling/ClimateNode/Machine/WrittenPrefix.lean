import ClimateNode.Machine.CheckedInt

/-!
# Arrays written from their start

Code that fills an array from index 0 on keeps an array and the number of entries written so far.
`Starts v written` says that the entries `written` stand at the start of `v`; a checked write right
behind them adds one (`writeAt_starts`). `UnchangedFrom k` is the frame of such code: the entries
from the index `k` on are the old ones.
-/

set_option autoImplicit false

namespace ClimateNode.Machine

universe u

variable {α : Type u} {n : Nat}

/-- The entries written into an array so far, from its start. -/
structure Starts (v : Vector α n) (written : List α) : Prop where
  room : written.length ≤ n
  bytes : v.toList.take written.length = written

section Starts

variable {v : Vector α n} {written : List α}

theorem starts_nil (v : Vector α n) : Starts v [] := ⟨Nat.zero_le _, rfl⟩

/-- A write right after the entries so far adds one to them. -/
theorem writeAt_starts (h : Starts v written) {i : Nat} (hi : written.length = i) (hroom : i < n)
    (x : α) : ∃ v', writeAt v i x = .ok v' ∧ Starts v' (written ++ [x]) := by
  subst hi
  refine ⟨_, writeAt_spec v hroom x, ?_, ?_⟩
  · rw [List.length_append]
    exact hroom
  · have hlen : written.length < v.toList.length := by simpa using hroom
    rw [Vector.toList_set hroom, List.length_append, List.length_singleton, List.take_add_one,
      List.take_set_of_le (Nat.le_refl _), h.bytes, List.getElem?_set_self hlen]
    rfl

/-- The entry at an index among those written. -/
theorem readAt_starts (h : Starts v written) {i : Nat} {x : α} (hx : written[i]? = some x) :
    readAt v i = .ok x := by
  have hi : i < written.length := (List.getElem?_eq_some_iff.1 hx).1
  have hget : v.toList[i]? = some x := by
    rw [← hx, ← List.getElem?_take_of_lt hi, h.bytes]
  have hv : v[i]? = some x := by
    rw [← Vector.getElem?_toList, hget]
  rw [readAt, hv]

/-- Fewer entries are written as well. -/
theorem Starts.of_append {rest : List α} (h : Starts v (written ++ rest)) : Starts v written := by
  have hroom := h.room
  rw [List.length_append] at hroom
  refine ⟨Nat.le_of_add_right_le hroom, ?_⟩
  have htake := congrArg (List.take written.length) h.bytes
  rwa [List.take_take, List.length_append, Nat.min_eq_left (Nat.le_add_right _ _),
    List.take_left] at htake

/-- An array that is written to its end holds what was written. -/
theorem toList_of_starts (h : Starts v written) (hfull : written.length = n) :
    v.toList = written := by
  have htake := h.bytes
  rwa [List.take_of_length_le (by rw [Vector.length_toList, hfull])] at htake

end Starts

/-! ## The frame -/

section Frame

variable {k : Nat} {a b c : Vector α n}

/-- The entries from the index `k` on are those of `before`. -/
def UnchangedFrom (k : Nat) (before after : Vector α n) : Prop :=
  ∀ j, k ≤ j → after[j]? = before[j]?

theorem UnchangedFrom.refl (k : Nat) (v : Vector α n) : UnchangedFrom k v v := fun _ _ => rfl

theorem UnchangedFrom.trans (hab : UnchangedFrom k a b) (hbc : UnchangedFrom k b c) :
    UnchangedFrom k a c :=
  fun j hj => (hbc j hj).trans (hab j hj)

/-- A write below `k` leaves the entries from `k` on. -/
theorem unchangedFrom_of_writeAt {i : Nat} {x : α} (hik : i < k) (h : writeAt a i x = .ok b) :
    UnchangedFrom k a b := by
  intro j hj
  unfold writeAt at h
  split at h
  · cases h
    exact Vector.getElem?_set_ne _ (by omega)
  · cases h

end Frame

end ClimateNode.Machine
