import ClimateNode.App.IdealScheduler
import Mathlib.Data.List.Chain
import Mathlib.Data.List.Nodup

/-!
# How often a task runs

`execTimes` are the times of a run at which one ideal task is executed. They are neither rare nor
dense, whatever the times of the calls: at every call the task has been executed within the last
period (`execTimes_recent`), and two executions are more than as many periods apart as there are
executions between them (`execTimes_spread`). The scheduler of the code executes a registered task
at these times, also across the wrap of its clock (`scheduler_rate`).
-/

set_option autoImplicit false

namespace ClimateNode.Application

open ClimateNode.Machine

variable {T S : Type}

/-- The times at which a task is executed, when it is passed at the times `times`. -/
def execTimes : IdealTask T → List Nat → List Nat
  | _, [] => []
  | t, now :: times =>
      if t.next ≤ now then now :: execTimes (t.pass now) times else execTimes t times

/-- The times at which `fn` is executed, by the notes of the calls. -/
def executionTimes [DecidableEq T] (fn : T) (times : List Nat) (calls : List (List T × Bool)) :
    List Nat :=
  ((times.zip calls).filter fun x => decide (fn ∈ x.2.1)).map Prod.fst

/-- Executions at the times `es`, one of them within the last period at every time of `times`, and
any two of them more than as many periods apart as there are others between them. -/
structure PacedBy (p : Nat) (times es : List Nat) : Prop where
  recent : ∀ now ∈ times, ∃ e ∈ es, e ≤ now ∧ now < e + p
  spread : ∀ (i j : Nat) (hij : i < j) (hj : j < es.length), es[i] + (j - i - 1) * p < es[j]

theorem le_of_isChain_callGap {first : Nat} {times : List Nat}
    (h : (first :: times).IsChain CallGap) : ∀ now ∈ times, first ≤ now := by
  have hle : (first :: times).IsChain (· ≤ ·) := h.imp fun _ _ hgap => hgap.1
  exact (List.pairwise_cons.1 hle.pairwise).1

/-! ## One task -/

section Task

variable {t : IdealTask T} {last now : Nat}

theorem pass_of_not_due (h : ¬ t.next ≤ now) : t.pass now = t := if_neg h

theorem execTimes_due (h : t.next ≤ now) (times : List Nat) :
    execTimes t (now :: times) = now :: execTimes (t.pass now) times := if_pos h

theorem execTimes_not_due (h : ¬ t.next ≤ now) (times : List Nat) :
    execTimes t (now :: times) = execTimes t times := if_neg h

/-- An execution moves the next time by at least one period. -/
theorem next_pass_ge (h : t.next ≤ now) : t.next + t.period ≤ (t.pass now).next := by
  rw [IdealTask.pass, if_pos h]
  show _ ≤ if t.next + t.period ≤ now then now + t.period else t.next + t.period
  split
  · omega
  · exact Nat.le_refl _

/-- Each execution is one period further than the one before it. -/
theorem execTimes_lower (times : List Nat) :
    ∀ (t : IdealTask T) (i : Nat) (hi : i < (execTimes t times).length),
      t.next + i * t.period ≤ (execTimes t times)[i] := by
  induction times with
  | nil => exact fun _ _ hi => absurd hi (Nat.not_lt_zero _)
  | cons now times ih =>
      intro t i hi
      by_cases hdue : t.next ≤ now
      · simp only [execTimes_due hdue] at hi ⊢
        cases i with
        | zero =>
            rw [Nat.zero_mul]
            exact hdue
        | succ i =>
            have hrest := ih (t.pass now) i (Nat.lt_of_succ_lt_succ hi)
            have hnext := next_pass_ge hdue
            rw [IdealTask.period_pass] at hrest
            rw [List.getElem_cons_succ, Nat.succ_mul]
            omega
      · simp only [execTimes_not_due hdue] at hi ⊢
        exact ih t i hi

/-- Two executions are more than as many periods apart as there are executions between them. -/
theorem execTimes_spread (times : List Nat) :
    ∀ {last : Nat} {t : IdealTask T}, t.Scheduled last → (last :: times).IsChain CallGap →
      ∀ (i j : Nat) (hij : i < j) (hj : j < (execTimes t times).length),
        (execTimes t times)[i] + (j - i - 1) * t.period < (execTimes t times)[j] := by
  induction times with
  | nil => exact fun _ _ _ _ _ hj => absurd hj (Nat.not_lt_zero _)
  | cons now times ih =>
      intro last t ht hchain i j hij hj
      obtain ⟨hgap, hrest⟩ := List.isChain_cons_cons.1 hchain
      by_cases hdue : t.next ≤ now
      · simp only [execTimes_due hdue] at hj ⊢
        obtain ⟨j, rfl⟩ : ∃ k, j = k + 1 := ⟨j - 1, by omega⟩
        have hj' := Nat.lt_of_succ_lt_succ hj
        cases i with
        | zero =>
            -- after an execution the next time lies in the future
            have hahead := (ht.pass_next hgap.1).1
            have hlower := execTimes_lower times (t.pass now) j hj'
            rw [IdealTask.period_pass] at hlower
            rw [List.getElem_cons_zero, List.getElem_cons_succ, Nat.sub_zero, Nat.add_sub_cancel]
            omega
        | succ i =>
            have hnext := ih (ht.pass hgap.1) hrest i j (Nat.lt_of_succ_lt_succ hij) hj'
            rw [IdealTask.period_pass] at hnext
            rw [List.getElem_cons_succ, List.getElem_cons_succ, Nat.add_sub_add_right]
            exact hnext
      · have hsame := ht.pass hgap.1
        rw [pass_of_not_due hdue] at hsame
        simp only [execTimes_not_due hdue] at hj ⊢
        exact ih hsame hrest i j hij hj

/-- At every call that is not before the next time the task has been executed within the last
period. -/
theorem execTimes_recent (times : List Nat) :
    ∀ {last : Nat} {t : IdealTask T}, t.Scheduled last → (last :: times).IsChain CallGap →
      ∀ now ∈ times, now < t.next ∨ ∃ e ∈ execTimes t times, e ≤ now ∧ now < e + t.period := by
  induction times with
  | nil => exact fun _ _ _ hnow => absurd hnow List.not_mem_nil
  | cons first times ih =>
      intro last t ht hchain now hnow
      obtain ⟨hgap, hrest⟩ := List.isChain_cons_cons.1 hchain
      have hpass := ih (ht.pass hgap.1) hrest
      by_cases hdue : t.next ≤ first
      · right
        rw [execTimes_due hdue]
        rcases List.mem_cons.1 hnow with rfl | hnow
        · exact ⟨now, List.mem_cons_self .., Nat.le_refl _, Nat.lt_add_of_pos_right ht.period_pos⟩
        · rcases hpass now hnow with hearly | ⟨e, he, hle, hlt⟩
          · -- no execution since this one
            have hnear := (ht.pass_next hgap.1).2
            have hafter := le_of_isChain_callGap hrest now hnow
            exact ⟨first, List.mem_cons_self .., hafter, by omega⟩
          · rw [IdealTask.period_pass] at hlt
            exact ⟨e, List.mem_cons_of_mem _ he, hle, hlt⟩
      · rw [execTimes_not_due hdue]
        rw [pass_of_not_due hdue] at hpass
        rcases List.mem_cons.1 hnow with rfl | hnow
        · exact Or.inl (Nat.not_le.1 hdue)
        · exact hpass now hnow

end Task

/-! ## The tasks of a run -/

section Run

variable {exec : T → S → Checked S}

theorem fn_pass (t : IdealTask T) (now : Nat) : (t.pass now).fn = t.fn := by
  rw [IdealTask.pass]
  split
  · rfl
  · rfl

/-- A task whose function no other task has is noted exactly when it is due. -/
theorem mem_idealDue_iff {ts : List (IdealTask T)} (hnodup : (ts.map IdealTask.fn).Nodup)
    {t : IdealTask T} (ht : t ∈ ts) (now : Nat) : t.fn ∈ idealDue now ts ↔ t.next ≤ now := by
  rw [idealDue, List.mem_map]
  constructor
  · rintro ⟨u, hu, hfn⟩
    obtain ⟨hmem, hdue⟩ := List.mem_filter.1 hu
    rw [List.inj_on_of_nodup_map hnodup hmem ht hfn] at hdue
    exact of_decide_eq_true hdue
  · exact fun hdue => ⟨t, List.mem_filter.2 ⟨ht, decide_eq_true hdue⟩, rfl⟩

variable [DecidableEq T]

theorem executionTimes_cons (fn : T) (now : Nat) (times : List Nat) (call : List T × Bool)
    (calls : List (List T × Bool)) :
    executionTimes fn (now :: times) (call :: calls) =
      if fn ∈ call.1 then now :: executionTimes fn times calls
      else executionTimes fn times calls := by
  rw [executionTimes, List.zip_cons_cons, List.filter_cons]
  by_cases hmem : fn ∈ call.1
  · simp only [hmem, decide_true, if_true, List.map_cons]
    rfl
  · simp only [hmem, decide_false, Bool.false_eq_true, if_false]
    rfl

/-- A run of the ideal scheduler notes every task at its own times. -/
theorem executionTimes_run (times : List Nat) :
    ∀ {r r' : IdealRun T S}, (r.tasks.map IdealTask.fn).Nodup →
      run (idealCall exec) r times = .ok r' → ∃ calls, r'.calls = r.calls ++ calls ∧
        ∀ t ∈ r.tasks, executionTimes t.fn times calls = execTimes t times := by
  induction times with
  | nil =>
      intro r r' _ hrun
      cases hrun
      exact ⟨[], (List.append_nil _).symm, fun _ _ => rfl⟩
  | cons now times ih =>
      intro r r' hnodup hrun
      obtain ⟨next, hcall, hrest⟩ := checked_bind_eq_ok
        (show idealCall exec r now >>= (fun r => run (idealCall exec) r times) = .ok r' from hrun)
      have htasks := tasks_idealCall exec hcall
      have hfns : next.tasks.map IdealTask.fn = r.tasks.map IdealTask.fn := by
        rw [htasks, List.map_map]
        exact List.map_congr_left fun t _ => fn_pass t now
      obtain ⟨calls, hcalls, htimes⟩ := ih (hfns ▸ hnodup) hrest
      have hnoted : next.calls =
          r.calls ++ [(idealDue now r.tasks, !(idealDue now r.tasks).isEmpty)] := by
        obtain ⟨st, -, hnext⟩ := checked_bind_eq_ok hcall
        cases hnext
        rfl
      refine ⟨(idealDue now r.tasks, !(idealDue now r.tasks).isEmpty) :: calls, ?_, ?_⟩
      · rw [hcalls, hnoted, List.append_assoc, List.singleton_append]
      · intro t ht
        have hlater := htimes (t.pass now) (htasks ▸ List.mem_map_of_mem ht)
        rw [fn_pass] at hlater
        rw [executionTimes_cons, hlater]
        by_cases hdue : t.next ≤ now
        · rw [if_pos ((mem_idealDue_iff hnodup ht now).2 hdue), execTimes_due hdue]
        · rw [if_neg (mt (mem_idealDue_iff hnodup ht now).1 hdue), execTimes_not_due hdue,
            pass_of_not_due hdue]

/-- In every run of the code's scheduler, a task registered under a function of its own has, at
every call, been executed within the last period, and its `i`-th and `j`-th execution are more than
`j - i - 1` periods apart. -/
theorem scheduler_rate (exec : T → S → Checked S) (capacity : Nat) (regs : List (UInt32 × T))
    (hregs : ∀ r ∈ regs, 0 < r.1.toNat ∧ r.1.toNat < 2147483648)
    (hfns : (regs.map Prod.snd).Nodup) (st : S) (times : List Nat)
    (hchain : (0 :: times).IsChain CallGap) {r : SchedRun T S}
    (hrun : run (schedCall exec) ⟨schedRegistered capacity regs, st, []⟩ times = .ok r)
    {p : UInt32} {fn : T} (hreg : (p, fn) ∈ regs.take capacity) :
    PacedBy p.toNat times (executionTimes fn times r.calls) := by
  have hscheduled := scheduled_idealRegistered capacity hregs
  have hwrapped := run_schedCall_wrapped exec capacity times hchain hscheduled
    (r := ⟨idealRegistered capacity regs, st, []⟩)
  have hstart : (⟨schedRegistered capacity regs, st, []⟩ : SchedRun T S) =
      IdealRun.wrapped capacity ⟨idealRegistered capacity regs, st, []⟩ := by
    rw [schedRegistered_eq_wrapped capacity fun r hr => (hregs r hr).1]
    rfl
  rw [hstart, hwrapped] at hrun
  cases hideal : run (idealCall exec) ⟨idealRegistered capacity regs, st, []⟩ times with
  | error e =>
      rw [hideal] at hrun
      cases hrun
  | ok r' =>
      rw [hideal] at hrun
      cases hrun
      have hnodup : ((idealRegistered capacity regs).map IdealTask.fn).Nodup := by
        have htake := hfns.sublist ((List.take_sublist capacity regs).map Prod.snd)
        rw [idealRegistered, List.map_map]
        exact htake
      obtain ⟨calls, hcalls, htimes⟩ := executionTimes_run times hnodup hideal
      have ht : (⟨p.toNat, 0, fn⟩ : IdealTask T) ∈ idealRegistered capacity regs :=
        List.mem_map_of_mem hreg
      have hsame : executionTimes fn times r'.calls = execTimes ⟨p.toNat, 0, fn⟩ times := by
        rw [hcalls, List.nil_append]
        exact htimes _ ht
      show PacedBy p.toNat times (executionTimes fn times r'.calls)
      rw [hsame]
      refine ⟨fun now hnow => ?_, execTimes_spread times (hscheduled _ ht) hchain⟩
      exact (execTimes_recent times (hscheduled _ ht) hchain now hnow).resolve_left
        (Nat.not_lt_zero now)

end Run

/-- Two tasks across the wrap of the clock. The one with 1000 ms is executed by the first three of
four calls. -/
theorem scheduler_rate_wrap :
    PacedBy 1000 [0, 2147483640, 4294967280, 4294967300] [0, 2147483640, 4294967280] := by
  have hrun : run (schedCall fun (_ : Nat) (st : Nat) => .ok (st + 1))
      ⟨schedRegistered 2 [(1000, 0), (10, 1)], 0, []⟩
      [0, 2147483640, 4294967280, 4294967300] = .ok
        ⟨⟨[⟨1000, 984, 0⟩, ⟨10, 14, 1⟩], 2⟩, 7,
          [([0, 1], true), ([0, 1], true), ([0, 1], true), ([1], true)]⟩ := rfl
  exact scheduler_rate _ 2 [(1000, 0), (10, 1)] (by decide) (by decide) 0 _ (by decide) hrun
    (List.mem_cons_self ..)

end ClimateNode.Application
