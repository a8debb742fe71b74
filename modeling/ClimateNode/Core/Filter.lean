import ClimateNode.Core.Types
import ClimateNode.Machine.SlidingWindow

/-!
# The moving-average filter

`core/filter.c`. `maInit` and `maUpdate` are the source's functions: a ring of five cells, a running
sum, and checked `int32_t` arithmetic. `FilterHolds f w` says that the ring of `f` holds the window
`w` and that its running sum is the sum of `w`. While the inputs are at most a fifth of the largest
`int32_t`, an update never faults, pushes its input onto the window and returns the truncated mean
of the window (`maUpdate_spec`).
-/

set_option autoImplicit false

namespace ClimateNode.Core

open ClimateNode.Machine

/-- `MA_FILTER_SIZE`. -/
def maFilterSize : UInt8 := 5

/-- `MA_WARMUP_SAMPLES`. -/
def maWarmupSamples : UInt8 := maFilterSize

/-- `ma_filter_t`. -/
structure MaFilter where
  buf : Vector Int32 5
  sum : Int32
  head : UInt8
  count : UInt8
  deriving DecidableEq, Repr

/-- `ma_init`. -/
def maInit : MaFilter where
  buf := Vector.replicate 5 0
  sum := 0
  head := 0
  count := 0

/-- What `ma_update` leaves: the filter, `*out_avg`, `*out_count` and the returned code. -/
structure MaStep where
  filter : MaFilter
  avg : Int32
  count : UInt8
  err : Err
  deriving DecidableEq, Repr

/-- The first branch of `ma_update`: store `x` at the head, in a free cell while there is one and
over the oldest input after that. -/
def maStore (f : MaFilter) (x : Int32) : Checked MaFilter :=
  if f.count < maFilterSize then do
    -- the head is the first free cell
    let buf ← writeAt f.buf f.head.toNat x
    let sum ← addI32 f.sum x
    pure { f with buf := buf, sum := sum, count := f.count + 1 }
  else do
    -- the head is the oldest input, which leaves the sum first
    let old ← readAt f.buf f.head.toNat
    let sum ← subI32 f.sum old
    let buf ← writeAt f.buf f.head.toNat x
    let sum ← addI32 sum x
    pure { f with buf := buf, sum := sum }

/-- The head increment of `ma_update`. -/
def maAdvance (f : MaFilter) : MaFilter :=
  let head := f.head + 1
  { f with head := if head ≥ maFilterSize then 0 else head }

/-- `ma_update`. -/
def maUpdate (f : MaFilter) (x : Int32) : Checked MaStep := do
  let f ← maStore f x
  let f := maAdvance f
  let avg ← divI32 f.sum (Int32.ofNat f.count.toNat)
  pure ⟨f, avg, f.count, if f.count ≥ maWarmupSamples then .ok else .warmup⟩

/-! ## The window a filter holds -/

/-- The integers of a window. -/
def windowSum (w : List Int32) : Int := (w.map Int32.toInt).sum

@[simp] theorem windowSum_nil : windowSum [] = 0 := rfl
@[simp] theorem windowSum_cons (x : Int32) (w : List Int32) :
    windowSum (x :: w) = x.toInt + windowSum w := by simp [windowSum]
@[simp] theorem windowSum_append (v w : List Int32) :
    windowSum (v ++ w) = windowSum v + windowSum w := by simp [windowSum]

/-- The filter `f` holds the window `w`, oldest input first. -/
structure FilterHolds (f : MaFilter) (w : List Int32) : Prop where
  length_eq : w.length = f.count.toNat
  count_le : f.count.toNat ≤ 5
  head_lt : f.head.toNat < 5
  head_eq : f.count.toNat < 5 → f.head.toNat = f.count.toNat
  contents : ringContents f.buf.toList f.head.toNat f.count.toNat = w
  sum_eq : f.sum.toInt = windowSum w

theorem filterHolds_maInit : FilterHolds maInit [] where
  length_eq := rfl
  count_le := by decide
  head_lt := by decide
  head_eq := fun _ => rfl
  contents := rfl
  sum_eq := rfl

/-- Inputs whose sums of five stay inside `int32_t`. -/
def Summable5 (x : Int32) : Prop := -429496729 ≤ x.toInt ∧ x.toInt ≤ 429496729

theorem windowSum_mem {w : List Int32} {lo hi : Int}
    (h : ∀ x ∈ w, lo ≤ x.toInt ∧ x.toInt ≤ hi) :
    lo * w.length ≤ windowSum w ∧ windowSum w ≤ hi * w.length := by
  have hmap : ∀ x ∈ w.map Int32.toInt, lo ≤ x ∧ x ≤ hi := by simpa using h
  simpa [windowSum] using sum_mem_of_forall_mem hmap

/-- A truncated mean lies between any bounds of its terms. -/
theorem windowSum_tdiv_mem {w : List Int32} (hw : w ≠ []) {lo hi : Int}
    (h : ∀ x ∈ w, lo ≤ x.toInt ∧ x.toInt ≤ hi) :
    lo ≤ (windowSum w).tdiv w.length ∧ (windowSum w).tdiv w.length ≤ hi := by
  have hlen : 0 < w.length := List.length_pos_iff.2 hw
  obtain ⟨hlo, hhi⟩ := windowSum_mem h
  exact tdiv_mem_of_mul_mem (by omega) hlo hhi

/-- Sums of at most five summable inputs are `int32_t` values. -/
theorem inInt32_windowSum {w : List Int32} (hlen : w.length ≤ 5) (h : ∀ x ∈ w, Summable5 x) :
    InInt32 (windowSum w) := by
  obtain ⟨h₁, h₂⟩ := windowSum_mem h
  constructor <;> omega

section Update

variable {f : MaFilter} {w : List Int32}

theorem count_lt_size_iff (f : MaFilter) : f.count < maFilterSize ↔ f.count.toNat < 5 :=
  UInt8.lt_iff_toNat_lt

theorem maAdvance_head (f : MaFilter) (h : f.head.toNat < 5) :
    (maAdvance f).head.toNat = ringNext 5 f.head.toNat := by
  have hadd : (f.head + 1).toNat = f.head.toNat + 1 := toNat_succ_of_lt (by omega)
  have hge : f.head + 1 ≥ maFilterSize ↔ 5 ≤ f.head.toNat + 1 := by
    rw [ge_iff_le, UInt8.le_iff_toNat_le, hadd]
    rfl
  unfold maAdvance ringNext
  simp only [hge]
  split
  · rfl
  · exact hadd

/-- What a filter has to meet so that it holds `v` once its head is moved. -/
theorem filterHolds_maAdvance {g : MaFilter} {v : List Int32} (hhead : g.head.toNat < 5)
    (hlen : v.length = g.count.toNat) (hcount : g.count.toNat ≤ 5)
    (hnext : g.count.toNat < 5 → ringNext 5 g.head.toNat = g.count.toNat)
    (hring : ringContents g.buf.toList (ringNext 5 g.head.toNat) g.count.toNat = v)
    (hsum : g.sum.toInt = windowSum v) : FilterHolds (maAdvance g) v := by
  have hmoved := maAdvance_head g hhead
  refine ⟨hlen, hcount, ?_, ?_, ?_, hsum⟩
  · rw [hmoved]
    exact ringNext_lt (by decide)
  · intro hlt
    rw [hmoved]
    exact hnext hlt
  · rw [hmoved]
    exact hring

/-- A window and one more input, all summable, have a sum in `int32_t` while they are at most
five. -/
theorem inInt32_windowSum_snoc {v : List Int32} {x : Int32} (hlen : v.length < 5)
    (hv : ∀ y ∈ v, Summable5 y) (hx : Summable5 x) : InInt32 (windowSum v + x.toInt) := by
  have hsum : windowSum (v ++ [x]) = windowSum v + x.toInt := by simp
  rw [← hsum]
  apply inInt32_windowSum
  · rw [List.length_append, List.length_singleton]
    omega
  · intro y hy
    rcases List.mem_append.1 hy with hy | hy
    · exact hv y hy
    · rw [List.mem_singleton.1 hy]
      exact hx

/-- While there is a free cell, storing `x` and moving the head appends `x` to the window. -/
theorem maStore_fill_spec (h : FilterHolds f w) (hfill : f.count.toNat < 5) {x : Int32}
    (hw : ∀ y ∈ w, Summable5 y) (hx : Summable5 x) :
    ∃ g, maStore f x = .ok g ∧ FilterHolds (maAdvance g) (pushWindow 5 w x) := by
  have hhead := h.head_lt
  have hwlen : w.length < 5 := by rw [h.length_eq]; exact hfill
  have hpush : pushWindow 5 w x = w ++ [x] := pushWindow_of_lt hwlen x
  have hcount : (f.count + 1).toNat = f.count.toNat + 1 := toNat_succ_of_lt (by omega)
  obtain ⟨s, hs, hsv⟩ : ∃ s, addI32 f.sum x = .ok s ∧ s.toInt = f.sum.toInt + x.toInt := by
    apply addI32_spec
    rw [h.sum_eq]
    exact inInt32_windowSum_snoc hwlen hw hx
  refine ⟨{ f with buf := f.buf.set f.head.toNat x hhead, sum := s, count := f.count + 1 },
    ?_, ?_⟩
  · rw [maStore, if_pos ((count_lt_size_iff f).2 hfill), writeAt_spec _ hhead]
    simp only [checked_ok_bind, hs, checked_pure]
  · have hring := ringContents_fill (by simpa using hfill : f.count.toNat < f.buf.toList.length) x
    rw [Vector.length_toList, ← h.head_eq hfill] at hring
    have hlen : (pushWindow 5 w x).length = (f.count + 1).toNat := by
      rw [hpush, hcount, List.length_append, List.length_singleton, h.length_eq]
    apply filterHolds_maAdvance
    · exact hhead
    · exact hlen
    · show (f.count + 1).toNat ≤ 5
      omega
    · intro hlt
      have hlt' : (f.count + 1).toNat < 5 := hlt
      show ringNext 5 f.head.toNat = (f.count + 1).toNat
      rw [h.head_eq hfill, hcount, ringNext, if_neg (by omega)]
    · show ringContents (f.buf.set f.head.toNat x hhead).toList (ringNext 5 f.head.toNat)
        (f.count + 1).toNat = pushWindow 5 w x
      rw [Vector.toList_set, hcount, ← h.head_eq hfill, hring, hpush, ← h.contents,
        h.head_eq hfill]
    · show s.toInt = windowSum (pushWindow 5 w x)
      rw [hsv, hpush, windowSum_append, windowSum_cons, windowSum_nil, h.sum_eq, add_zero]

/-- When every cell is used, the cell about to be overwritten is the oldest input of the window. -/
theorem FilterHolds.oldest (h : FilterHolds f w) (hcount : f.count.toNat = 5)
    (hhead : f.head.toNat < 5) : w = f.buf[f.head.toNat] :: w.tail := by
  have hfull : f.buf.toList.length ≤ f.count.toNat := by simp [hcount]
  have hhead' : f.head.toNat < f.buf.toList.length := by simpa using hhead
  have hring := ringContents_oldest hfull hhead'
  rwa [h.contents, Vector.getElem_toList] at hring

/-- The sum without it is that of the rest of the window. -/
theorem FilterHolds.sum_tail (h : FilterHolds f w) (hcount : f.count.toNat = 5)
    (hhead : f.head.toNat < 5) :
    f.sum.toInt - f.buf[f.head.toNat].toInt = windowSum w.tail := by
  have hsum := congrArg windowSum (h.oldest hcount hhead)
  rw [windowSum_cons] at hsum
  rw [h.sum_eq]
  omega

/-- When every cell is used, storing `x` and moving the head drops the oldest input and appends
`x`. -/
theorem maStore_replace_spec (h : FilterHolds f w) (hfill : ¬ f.count.toNat < 5) {x : Int32}
    (hw : ∀ y ∈ w, Summable5 y) (hx : Summable5 x) :
    ∃ g, maStore f x = .ok g ∧ FilterHolds (maAdvance g) (pushWindow 5 w x) := by
  have hhead := h.head_lt
  have hcount : f.count.toNat = 5 := by have := h.count_le; omega
  have hwlen : w.length = 5 := by rw [h.length_eq]; exact hcount
  have hpush : pushWindow 5 w x = w.tail ++ [x] := pushWindow_of_full hwlen (by decide) x
  have hfull : f.buf.toList.length ≤ f.count.toNat := by simp [hcount]
  have hhead' : f.head.toNat < f.buf.toList.length := by simpa using hhead
  have htail : ∀ y ∈ w.tail, Summable5 y := fun y hy => hw y (List.mem_of_mem_tail hy)
  have htlen : w.tail.length < 5 := by rw [List.length_tail]; omega
  -- the oldest input goes out of the sum first
  have hrest := h.sum_tail hcount hhead
  obtain ⟨s₁, hs₁, hv₁⟩ := subI32_spec (hrest ▸ inInt32_windowSum (by omega) htail)
  obtain ⟨s₂, hs₂, hv₂⟩ : ∃ s, addI32 s₁ x = .ok s ∧ s.toInt = s₁.toInt + x.toInt := by
    apply addI32_spec
    rw [hv₁, hrest]
    exact inInt32_windowSum_snoc htlen htail hx
  refine ⟨{ f with buf := f.buf.set f.head.toNat x hhead, sum := s₂ }, ?_, ?_⟩
  · rw [maStore, if_neg (mt (count_lt_size_iff f).1 hfill), readAt_spec _ hhead,
      writeAt_spec _ hhead]
    simp only [checked_ok_bind, hs₁, hs₂, checked_pure]
  · have hring := ringContents_replace hfull hhead' x
    rw [Vector.length_toList, h.contents] at hring
    -- the window keeps its length
    have hlen : (pushWindow 5 w x).length = f.count.toNat := by
      rw [hpush, List.length_append, List.length_singleton, List.length_tail, hwlen, hcount]
    apply filterHolds_maAdvance
    · exact hhead
    · exact hlen
    · exact h.count_le
    · exact fun hlt => absurd hlt hfill
    · show ringContents (f.buf.set f.head.toNat x hhead).toList (ringNext 5 f.head.toNat)
        f.count.toNat = pushWindow 5 w x
      rw [Vector.toList_set, hring, hpush]
    · show s₂.toInt = windowSum (pushWindow 5 w x)
      rw [hv₂, hv₁, hrest, hpush, windowSum_append, windowSum_cons, windowSum_nil, add_zero]

/-- Storing `x` and moving the head pushes `x` onto the window, without a fault. -/
theorem maStore_spec (h : FilterHolds f w) {x : Int32} (hw : ∀ y ∈ w, Summable5 y)
    (hx : Summable5 x) :
    ∃ g, maStore f x = .ok g ∧ FilterHolds (maAdvance g) (pushWindow 5 w x) := by
  by_cases hfill : f.count.toNat < 5
  · exact maStore_fill_spec h hfill hw hx
  · exact maStore_replace_spec h hfill hw hx

/-- An update pushes its input onto the window and returns the truncated mean of the window, ready
once the window is full. -/
theorem maUpdate_spec (h : FilterHolds f w) {x : Int32} (hw : ∀ y ∈ w, Summable5 y)
    (hx : Summable5 x) :
    ∃ r, maUpdate f x = .ok r ∧ FilterHolds r.filter (pushWindow 5 w x) ∧
      r.avg.toInt = (windowSum (pushWindow 5 w x)).tdiv (pushWindow 5 w x).length ∧
      r.count.toNat = (pushWindow 5 w x).length ∧
      r.err = if 5 ≤ (pushWindow 5 w x).length then .ok else .warmup := by
  obtain ⟨g, hg, hholds⟩ := maStore_spec h hw hx
  have hwlen : w.length ≤ 5 := by rw [h.length_eq]; exact h.count_le
  have hplen := length_pushWindow hwlen (by decide) x
  have hcount := hholds.length_eq
  -- the divisor is the length of the window, so it is positive
  have hden : (Int32.ofNat (maAdvance g).count.toNat).toInt = (pushWindow 5 w x).length := by
    rw [Int32.toInt_ofNat_of_lt (by omega), hcount]
  obtain ⟨a, ha, hav⟩ := divI32_spec (a := (maAdvance g).sum) (by
    rw [hden, hplen]
    omega : 0 < (Int32.ofNat (maAdvance g).count.toNat).toInt)
  refine ⟨⟨maAdvance g, a, (maAdvance g).count,
    if (maAdvance g).count ≥ maWarmupSamples then .ok else .warmup⟩, ?_, hholds, ?_, hcount.symm,
    ?_⟩
  · simp only [maUpdate, hg, checked_ok_bind, ha, checked_pure]
  · rw [hav, hden, hholds.sum_eq]
  · have hge : (maAdvance g).count ≥ maWarmupSamples ↔ 5 ≤ (pushWindow 5 w x).length := by
      rw [ge_iff_le, UInt8.le_iff_toNat_le, hcount]
      rfl
    simp only [hge]

end Update

end ClimateNode.Core
