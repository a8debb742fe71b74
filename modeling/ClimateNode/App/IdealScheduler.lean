import ClimateNode.App.Scheduler
import ClimateNode.Machine.Runs
import ClimateNode.Machine.WrapTime

/-!
# The scheduler on an unbounded clock

The ideal scheduler keeps its times as natural numbers and runs every task whose time has come. The
scheduler of the code keeps them modulo `2^32` and compares them by the sign of a difference. After
a pass every next time is at most one period ahead (`IdealTask.Scheduled`), so that two times that
are compared are less than `2^31` ms apart and the comparison decides their order. Hence a run of
the code's scheduler is the wrapped run of the ideal one (`scheduler_refines_ideal`).
-/

set_option autoImplicit false

namespace ClimateNode.Application

open ClimateNode.Machine

variable {T S : Type}

/-! ## The ideal scheduler -/

/-- A task with unbounded times. -/
structure IdealTask (T : Type) where
  period : Nat
  next : Nat
  fn : T
  deriving DecidableEq, Repr

/-- The tasks that a pass at `now` executes, in registration order. -/
def idealDue (now : Nat) (ts : List (IdealTask T)) : List T :=
  (ts.filter fun t => t.next ≤ now).map IdealTask.fn

/-- What a pass at `now` makes of a task: one that runs is due again one period later, or one period
from now when that is still not in the future. -/
def IdealTask.pass (now : Nat) (t : IdealTask T) : IdealTask T :=
  if t.next ≤ now then
    { t with next := if t.next + t.period ≤ now then now + t.period else t.next + t.period }
  else t

/-- The next time is at most one period after the last pass. -/
structure IdealTask.Scheduled (last : Nat) (t : IdealTask T) : Prop where
  period_pos : 0 < t.period
  period_lt : t.period < 2147483648
  last_le : last ≤ t.next
  next_le : t.next ≤ last + t.period

/-- A pass comes no earlier than the one before it, and less than `2^31` ms later. -/
def CallGap (last now : Nat) : Prop := last ≤ now ∧ now < last + 2147483648

instance (last now : Nat) : Decidable (CallGap last now) := by
  unfold CallGap
  infer_instance

namespace IdealTask

variable {t : IdealTask T} {last now : Nat}

theorem period_pass : (t.pass now).period = t.period := by
  rw [pass]
  split
  · rfl
  · rfl

/-- After a pass the next time lies in the future, at most one period ahead. -/
theorem Scheduled.pass_next (h : t.Scheduled last) (hle : last ≤ now) :
    now < (t.pass now).next ∧ (t.pass now).next ≤ now + t.period := by
  obtain ⟨hpos, -, -, hnext⟩ := h
  by_cases hdue : t.next ≤ now
  · rw [IdealTask.pass, if_pos hdue]
    by_cases hmissed : t.next + t.period ≤ now
    · simp only [if_pos hmissed]
      omega
    · simp only [if_neg hmissed]
      omega
  · rw [IdealTask.pass, if_neg hdue]
    omega

theorem Scheduled.pass (h : t.Scheduled last) (hle : last ≤ now) :
    (t.pass now).Scheduled now := by
  obtain ⟨hlt, hnext⟩ := h.pass_next hle
  refine ⟨?_, ?_, Nat.le_of_lt hlt, ?_⟩
  · rw [period_pass]
    exact h.period_pos
  · rw [period_pass]
    exact h.period_lt
  · rw [period_pass]
    exact hnext

end IdealTask

/-! ## One pass -/

/-- The task as the code keeps it. -/
def IdealTask.wrapped (t : IdealTask T) : SchedTask T :=
  ⟨UInt32.ofNat t.period, UInt32.ofNat t.next, t.fn⟩

theorem schedIsDue_ofNat {now next : Nat} (hlate : now < next + 2147483648)
    (hearly : next < now + 2147483648) :
    schedIsDue (UInt32.ofNat now) (UInt32.ofNat next) = decide (next ≤ now) :=
  decide_eq_decide.2 (due_ofNat_iff hlate hearly)

section Pass

variable {t : IdealTask T} {last now : Nat}

/-- The first test of the loop is right. -/
theorem schedIsDue_wrapped (h : t.Scheduled last) (hgap : CallGap last now) :
    schedIsDue (UInt32.ofNat now) t.wrapped.nextMs = decide (t.next ≤ now) := by
  obtain ⟨-, hperiod, hlast, hnext⟩ := h
  obtain ⟨hle, hlt⟩ := hgap
  exact schedIsDue_ofNat (by omega) (by omega)

/-- The second one is right too, and the task is rescheduled as in a pass. -/
theorem schedAdvance_wrapped (h : t.Scheduled last) (hgap : CallGap last now)
    (hdue : t.next ≤ now) :
    schedAdvance t.wrapped (UInt32.ofNat now) = (t.pass now).wrapped := by
  obtain ⟨-, hperiod, hlast, -⟩ := h
  obtain ⟨-, hlt⟩ := hgap
  have hsum : t.wrapped.nextMs + t.wrapped.periodMs = UInt32.ofNat (t.next + t.period) :=
    (UInt32.ofNat_add _ _).symm
  have htest : schedIsDue (UInt32.ofNat now) (UInt32.ofNat (t.next + t.period)) =
      decide (t.next + t.period ≤ now) := schedIsDue_ofNat (by omega) (by omega)
  rw [schedAdvance, hsum, htest, IdealTask.pass, if_pos hdue]
  by_cases hmissed : t.next + t.period ≤ now
  · -- a period was missed
    simp only [hmissed, decide_true, if_true, IdealTask.wrapped, UInt32.ofNat_add]
  · simp only [hmissed, decide_false, Bool.false_eq_true, if_false, IdealTask.wrapped]

/-- The loop of the code executes what is due on the ideal clock and leaves the wrapped tasks of the
ideal pass. -/
theorem schedRunTasks_wrapped (exec : T → S → Checked S) (hgap : CallGap last now) :
    ∀ (ts : List (IdealTask T)) (st : S), (∀ t ∈ ts, t.Scheduled last) →
      schedRunTasks exec (UInt32.ofNat now) (ts.map IdealTask.wrapped) st =
        (idealDue now ts).foldlM (fun st fn => exec fn st) st >>= fun st' =>
          .ok ⟨(ts.map (IdealTask.pass now)).map IdealTask.wrapped, st',
            !(idealDue now ts).isEmpty⟩ := by
  intro ts
  induction ts with
  | nil => exact fun _ _ => rfl
  | cons t ts ih =>
      intro st hall
      have ht := hall t List.mem_cons_self
      have hrest := fun st => ih st fun u hu => hall u (List.mem_cons_of_mem t hu)
      rw [List.map_cons, schedRunTasks, schedIsDue_wrapped ht hgap]
      by_cases hdue : t.next ≤ now
      · have hlist : idealDue now (t :: ts) = t.fn :: idealDue now ts := by
          simp only [idealDue, List.filter_cons, hdue, decide_true, if_true, List.map_cons]
        rw [hlist, decide_eq_true hdue, if_pos rfl, schedAdvance_wrapped ht hgap hdue]
        rw [List.foldlM_cons]
        show exec t.fn st >>= _ = _
        cases exec t.fn st with
        | error e => rfl
        | ok st =>
            simp only [checked_ok_bind, hrest]
            cases (idealDue now ts).foldlM (fun st fn => exec fn st) st with
            | error e => rfl
            | ok st' => rfl
      · have hlist : idealDue now (t :: ts) = idealDue now ts := by
          simp only [idealDue, List.filter_cons, hdue, decide_false, Bool.false_eq_true, if_false]
        have hpass : t.pass now = t := if_neg hdue
        rw [hlist, decide_eq_false hdue, if_neg (by decide), hrest, List.map_cons, List.map_cons,
          hpass]
        cases (idealDue now ts).foldlM (fun st fn => exec fn st) st with
        | error e => rfl
        | ok st' => rfl

end Pass

/-! ## Runs -/

/-- The code's scheduler and the state of its tasks, with what each call has executed and
returned. -/
structure SchedRun (T S : Type) where
  sched : Scheduler T
  state : S
  calls : List (List T × Bool)

/-- The ideal scheduler, with the same. -/
structure IdealRun (T S : Type) where
  tasks : List (IdealTask T)
  state : S
  calls : List (List T × Bool)

/-- A task function together with a note that it was executed. -/
def noting (exec : T → S → Checked S) (fn : T) (σ : S × List T) : Checked (S × List T) := do
  let st ← exec fn σ.1
  pure (st, σ.2 ++ [fn])

/-- `sched_run_once` at a true time, of which the code sees the residue modulo `2^32`. -/
def schedCall (exec : T → S → Checked S) (r : SchedRun T S) (now : Nat) :
    Checked (SchedRun T S) := do
  let out ← schedRunOnce (noting exec) r.sched (UInt32.ofNat now) (r.state, [])
  pure ⟨out.1, out.2.1.1, r.calls ++ [(out.2.1.2, out.2.2)]⟩

/-- A pass of the ideal scheduler. -/
def idealCall (exec : T → S → Checked S) (r : IdealRun T S) (now : Nat) :
    Checked (IdealRun T S) := do
  let due := idealDue now r.tasks
  let st ← due.foldlM (fun st fn => exec fn st) r.state
  pure ⟨r.tasks.map (IdealTask.pass now), st, r.calls ++ [(due, !due.isEmpty)]⟩

/-- The scheduler after the registrations, in order; a full one refuses. -/
def schedRegistered (capacity : Nat) (regs : List (UInt32 × T)) : Scheduler T :=
  regs.foldl (fun s r => (schedRegister s r.1 r.2).2) (schedInit capacity)

/-- The ideal tasks that these registrations make. -/
def idealRegistered (capacity : Nat) (regs : List (UInt32 × T)) : List (IdealTask T) :=
  (regs.take capacity).map fun r => ⟨r.1.toNat, 0, r.2⟩

/-- The ideal run as the code keeps it. -/
def IdealRun.wrapped (capacity : Nat) (r : IdealRun T S) : SchedRun T S :=
  ⟨⟨r.tasks.map IdealTask.wrapped, capacity⟩, r.state, r.calls⟩

section Registration

/-- A registration with a positive period is appended while there is room. -/
theorem foldl_schedRegister (capacity : Nat) (regs : List (UInt32 × T)) :
    ∀ ts : List (SchedTask T), (∀ r ∈ regs, r.1 ≠ 0) →
      regs.foldl (fun s r => (schedRegister s r.1 r.2).2) ⟨ts, capacity⟩ =
        ⟨ts ++ (regs.take (capacity - ts.length)).map fun r => ⟨r.1, 0, r.2⟩, capacity⟩ := by
  induction regs with
  | nil =>
      intro ts _
      rw [List.take_nil, List.map_nil, List.append_nil]
      rfl
  | cons r regs ih =>
      intro ts hall
      have hr : r.1 ≠ 0 := hall r List.mem_cons_self
      have hregs : ∀ u ∈ regs, u.1 ≠ 0 := fun u hu => hall u (List.mem_cons_of_mem r hu)
      rw [List.foldl_cons, schedRegister, if_neg hr]
      by_cases hfull : ts.length ≥ capacity
      · have hroom : capacity - ts.length = 0 := Nat.sub_eq_zero_of_le hfull
        rw [if_pos hfull, ih ts hregs, hroom, List.take_zero, List.take_zero]
      · have hroom : capacity - ts.length = capacity - (ts.length + 1) + 1 := by omega
        rw [if_neg hfull, ih _ hregs, hroom, List.take_succ_cons, List.map_cons, List.length_append,
          List.length_singleton, List.append_assoc]
        rfl

theorem schedRegistered_eq_wrapped (capacity : Nat) {regs : List (UInt32 × T)}
    (hregs : ∀ r ∈ regs, 0 < r.1.toNat) :
    schedRegistered capacity regs =
      ⟨(idealRegistered capacity regs).map IdealTask.wrapped, capacity⟩ := by
  have hne : ∀ r ∈ regs, r.1 ≠ 0 := by
    intro r hr hzero
    have hpos := hregs r hr
    rw [hzero] at hpos
    exact Nat.lt_irrefl 0 hpos
  rw [schedRegistered, schedInit, foldl_schedRegister capacity regs [] hne, idealRegistered,
    List.map_map]
  simp [IdealTask.wrapped, Function.comp_def]

/-- Before the first call every task is due at once. -/
theorem scheduled_idealRegistered (capacity : Nat) {regs : List (UInt32 × T)}
    (hregs : ∀ r ∈ regs, 0 < r.1.toNat ∧ r.1.toNat < 2147483648) :
    ∀ t ∈ idealRegistered capacity regs, t.Scheduled 0 := by
  intro t ht
  obtain ⟨r, hr, rfl⟩ := List.mem_map.1 ht
  obtain ⟨hpos, hlt⟩ := hregs r (List.mem_of_mem_take hr)
  exact ⟨hpos, hlt, Nat.le_refl 0, Nat.zero_le _⟩

end Registration

section Run

variable (exec : T → S → Checked S) {last now : Nat} {r r' : IdealRun T S}

/-- Noting the executions changes nothing else. -/
theorem foldlM_noting (fns : List T) : ∀ (st : S) (noted : List T),
    fns.foldlM (fun σ fn => noting exec fn σ) (st, noted) =
      fns.foldlM (fun st fn => exec fn st) st >>= fun st' => .ok (st', noted ++ fns) := by
  induction fns with
  | nil =>
      intro st noted
      rw [List.append_nil]
      rfl
  | cons fn fns ih =>
      intro st noted
      rw [List.foldlM_cons, List.foldlM_cons, noting]
      cases exec fn st with
      | error e => rfl
      | ok st' =>
          simp only [checked_ok_bind, checked_pure, ih, List.append_assoc, List.singleton_append]

/-- A call is the wrapped pass of the ideal scheduler. -/
theorem schedCall_wrapped (capacity : Nat) (h : ∀ t ∈ r.tasks, t.Scheduled last)
    (hgap : CallGap last now) :
    schedCall exec (r.wrapped capacity) now =
      (idealCall exec r now).map (IdealRun.wrapped capacity) := by
  have hloop := schedRunTasks_wrapped (noting exec) hgap r.tasks (r.state, []) h
  rw [foldlM_noting] at hloop
  simp only [schedCall, idealCall, schedRunOnce, IdealRun.wrapped, hloop]
  cases (idealDue now r.tasks).foldlM (fun st fn => exec fn st) r.state with
  | error e => rfl
  | ok st => rfl

theorem tasks_idealCall (hcall : idealCall exec r now = .ok r') :
    r'.tasks = r.tasks.map (IdealTask.pass now) := by
  obtain ⟨st, -, hr'⟩ := checked_bind_eq_ok hcall
  cases hr'
  rfl

theorem scheduled_idealCall (h : ∀ t ∈ r.tasks, t.Scheduled last) (hgap : CallGap last now)
    (hcall : idealCall exec r now = .ok r') : ∀ t ∈ r'.tasks, t.Scheduled now := by
  intro t ht
  rw [tasks_idealCall exec hcall] at ht
  obtain ⟨u, hu, rfl⟩ := List.mem_map.1 ht
  exact (h u hu).pass hgap.1

/-- A run of calls is the wrapped run of the ideal scheduler. -/
theorem run_schedCall_wrapped (capacity : Nat) (times : List Nat) :
    ∀ {last : Nat} {r : IdealRun T S}, (last :: times).IsChain CallGap →
      (∀ t ∈ r.tasks, t.Scheduled last) →
      run (schedCall exec) (r.wrapped capacity) times =
        (run (idealCall exec) r times).map (IdealRun.wrapped capacity) := by
  induction times with
  | nil => exact fun _ _ => rfl
  | cons now times ih =>
      intro last r hchain h
      obtain ⟨hgap, hrest⟩ := List.isChain_cons_cons.1 hchain
      have hcall := schedCall_wrapped exec capacity h hgap
      cases hideal : idealCall exec r now with
      | error e =>
          rw [hideal] at hcall
          simp only [run, List.foldlM_cons, hideal, hcall]
          rfl
      | ok r' =>
          rw [hideal] at hcall
          rw [run_cons_ok hcall, run_cons_ok hideal]
          exact ih hrest (scheduled_idealCall exec h hgap hideal)

/-- After the last call of a run every next time lies in the future, at most one period ahead. -/
theorem next_of_run (times : List Nat) :
    ∀ {last : Nat} {r : IdealRun T S}, (last :: (times ++ [now])).IsChain CallGap →
      (∀ t ∈ r.tasks, t.Scheduled last) → run (idealCall exec) r (times ++ [now]) = .ok r' →
      ∀ t ∈ r'.tasks, t.period < 2147483648 ∧ now < t.next ∧ t.next ≤ now + t.period := by
  induction times with
  | nil =>
      intro last r hchain h hrun t ht
      obtain ⟨hgap, -⟩ := List.isChain_cons_cons.1 hchain
      have hcall : idealCall exec r now = .ok r' := (run_snoc_ok (run_nil r) now).symm.trans hrun
      rw [tasks_idealCall exec hcall] at ht
      obtain ⟨u, hu, rfl⟩ := List.mem_map.1 ht
      obtain ⟨hlt, hle⟩ := (h u hu).pass_next hgap.1
      refine ⟨((h u hu).pass hgap.1).period_lt, hlt, ?_⟩
      rw [IdealTask.period_pass]
      exact hle
  | cons first times ih =>
      intro last r hchain h hrun
      obtain ⟨hgap, hrest⟩ := List.isChain_cons_cons.1 hchain
      obtain ⟨r₁, hcall, hrun₁⟩ := checked_bind_eq_ok
        (show idealCall exec r first >>= (fun r => run (idealCall exec) r (times ++ [now])) = .ok r'
          from hrun)
      exact ih hrest (scheduled_idealCall exec h hgap hcall) hrun₁

/-- Every call executes what the ideal scheduler executes and returns whether that is anything, and
leaves its tasks modulo `2^32`; after it every next time is between one millisecond and one period
ahead of the wrapped time. -/
theorem scheduler_refines_ideal (capacity : Nat) (regs : List (UInt32 × T))
    (hregs : ∀ r ∈ regs, 0 < r.1.toNat ∧ r.1.toNat < 2147483648) (st : S) (times : List Nat)
    (now : Nat) (htimes : (0 :: (times ++ [now])).IsChain CallGap) :
    run (schedCall exec) ⟨schedRegistered capacity regs, st, []⟩ (times ++ [now]) =
        (run (idealCall exec) ⟨idealRegistered capacity regs, st, []⟩ (times ++ [now])).map
          (IdealRun.wrapped capacity) ∧
      ∀ r, run (schedCall exec) ⟨schedRegistered capacity regs, st, []⟩ (times ++ [now]) = .ok r →
        ∀ t ∈ r.sched.tasks, 0 < (t.nextMs - UInt32.ofNat now).toNat ∧
          (t.nextMs - UInt32.ofNat now).toNat ≤ t.periodMs.toNat := by
  have hstart : (⟨schedRegistered capacity regs, st, []⟩ : SchedRun T S) =
      IdealRun.wrapped capacity ⟨idealRegistered capacity regs, st, []⟩ := by
    rw [schedRegistered_eq_wrapped capacity fun r hr => (hregs r hr).1]
    rfl
  have hscheduled := scheduled_idealRegistered capacity hregs
  have hrun := run_schedCall_wrapped exec capacity (times ++ [now])
    (r := ⟨idealRegistered capacity regs, st, []⟩) htimes hscheduled
  rw [hstart]
  refine ⟨hrun, fun r hr t ht => ?_⟩
  rw [hrun] at hr
  cases hideal : run (idealCall exec) ⟨idealRegistered capacity regs, st, []⟩ (times ++ [now]) with
  | error e =>
      rw [hideal] at hr
      cases hr
  | ok r' =>
      rw [hideal] at hr
      cases hr
      obtain ⟨u, hu, rfl⟩ := List.mem_map.1 ht
      obtain ⟨hperiod, hlt, hle⟩ := next_of_run exec times htimes hscheduled hideal u hu
      have hsub : (u.wrapped.nextMs - UInt32.ofNat now).toNat = u.next - now := by
        show (UInt32.ofNat u.next - UInt32.ofNat now).toNat = u.next - now
        rw [UInt32.toNat_sub, UInt32.toNat_ofNat', UInt32.toNat_ofNat']
        omega
      have hmod : u.wrapped.periodMs.toNat = u.period := by
        show (UInt32.ofNat u.period).toNat = u.period
        rw [UInt32.toNat_ofNat']
        omega
      rw [hsub, hmod]
      omega

end Run

/-- Two tasks across the wrap of the clock: the fourth call comes 4 ms after it. -/
theorem scheduler_refines_ideal_wrap :
    (run (schedCall fun (_ : Nat) (st : Nat) => .ok (st + 1))
        ⟨schedRegistered 2 [(1000, 0), (10, 1)], 0, []⟩
        ([0, 2147483640, 4294967280] ++ [4294967300])).map SchedRun.calls =
      .ok [([0, 1], true), ([0, 1], true), ([0, 1], true), ([1], true)] := by
  rw [(scheduler_refines_ideal (fun (_ : Nat) (st : Nat) => .ok (st + 1)) 2 [(1000, 0), (10, 1)]
    (by decide) 0 [0, 2147483640, 4294967280] 4294967300 (by decide)).1]
  rfl

end ClimateNode.Application
