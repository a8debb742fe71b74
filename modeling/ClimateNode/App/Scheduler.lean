import ClimateNode.Machine.CheckedInt
import ClimateNode.Machine.WrapTime

/-!
# The cooperative scheduler

`app/scheduler.c`, over any type of task names and any function that runs a named task on a state.
A pass runs the due tasks in registration order; the time of the pass is read once, and what the
pass leaves of a task depends on that time alone (`schedRunTasks_tasks`).
-/

set_option autoImplicit false

namespace ClimateNode.Application

open ClimateNode.Machine

variable {T S : Type}

/-- `sched_task_t`; `fn` names the task function with its context. -/
structure SchedTask (T : Type) where
  periodMs : UInt32
  nextMs : UInt32
  fn : T
  deriving DecidableEq, Repr

/-- `scheduler_t`; `count` is the length of `tasks`. -/
structure Scheduler (T : Type) where
  tasks : List (SchedTask T)
  capacity : Nat
  deriving DecidableEq, Repr

/-- `sched_is_due`. -/
def schedIsDue (nowMs nextMs : UInt32) : Bool := decide ((nowMs - nextMs).toInt32 ≥ 0)

/-- `sched_init`. -/
def schedInit (capacity : Nat) : Scheduler T := ⟨[], capacity⟩

/-- `sched_register`, with the returned flag. -/
def schedRegister (s : Scheduler T) (periodMs : UInt32) (fn : T) : Bool × Scheduler T :=
  if periodMs = 0 then (false, s)
  else if s.tasks.length ≥ s.capacity then (false, s)
  else (true, { s with tasks := s.tasks ++ [⟨periodMs, 0, fn⟩] })

/-- The rescheduling at the end of the loop body of `sched_run_once`. -/
def schedAdvance (t : SchedTask T) (nowMs : UInt32) : SchedTask T :=
  let next := t.nextMs + t.periodMs
  { t with nextMs := if schedIsDue nowMs next then nowMs + t.periodMs else next }

/-- What a pass leaves: the tasks, the state and the returned flag. -/
structure SchedStep (T S : Type) where
  tasks : List (SchedTask T)
  state : S
  any : Bool

/-- The loop of `sched_run_once`. -/
def schedRunTasks (exec : T → S → Checked S) (nowMs : UInt32) :
    List (SchedTask T) → S → Checked (SchedStep T S)
  | [], st => .ok ⟨[], st, false⟩
  | t :: ts, st =>
      if schedIsDue nowMs t.nextMs then do
        let st ← exec t.fn st
        let rest ← schedRunTasks exec nowMs ts st
        pure ⟨schedAdvance t nowMs :: rest.tasks, rest.state, true⟩
      else do
        let rest ← schedRunTasks exec nowMs ts st
        pure ⟨t :: rest.tasks, rest.state, rest.any⟩

/-- `sched_run_once`. -/
def schedRunOnce (exec : T → S → Checked S) (s : Scheduler T) (nowMs : UInt32) (st : S) :
    Checked (Scheduler T × S × Bool) := do
  let r ← schedRunTasks exec nowMs s.tasks st
  pure ({ s with tasks := r.tasks }, r.state, r.any)

/-! ## What a pass leaves -/

theorem schedIsDue_msAfter (a : UInt32) {i j : Nat} (hi : i < 2147483648) (hj : j < 2147483648) :
    schedIsDue (msAfter a i) (msAfter a j) = decide (j ≤ i) :=
  decide_eq_decide.2 (due_msAfter_iff a hi hj)

/-- A task is due again one period later, or one period from now when that is not in the future. -/
theorem schedAdvance_msAfter (a : UInt32) {i j : Nat} {p : UInt32} (fn : T) (hi : i < 2147483648)
    (hj : j + p.toNat < 2147483648) :
    schedAdvance ⟨p, msAfter a j, fn⟩ (msAfter a i) =
      ⟨p, if j + p.toNat ≤ i then msAfter a (i + p.toNat) else msAfter a (j + p.toNat), fn⟩ := by
  simp only [schedAdvance, msAfter_add_toUInt32, schedIsDue_msAfter a hi hj, decide_eq_true_eq]

/-- A pass that returns has rescheduled the due tasks and kept the others. -/
theorem schedRunTasks_tasks {exec : T → S → Checked S} {nowMs : UInt32} :
    ∀ {ts : List (SchedTask T)} {st : S} {r : SchedStep T S},
      schedRunTasks exec nowMs ts st = .ok r →
        r.tasks =
          ts.map fun t => if schedIsDue nowMs t.nextMs then schedAdvance t nowMs else t := by
  intro ts
  induction ts with
  | nil =>
      intro st r h
      cases h
      rfl
  | cons t ts ih =>
      intro st r h
      rw [schedRunTasks] at h
      cases hdue : schedIsDue nowMs t.nextMs with
      | true =>
          rw [hdue, if_pos rfl] at h
          obtain ⟨st', -, h⟩ := checked_bind_eq_ok h
          obtain ⟨rest, hrest, h⟩ := checked_bind_eq_ok h
          cases h
          rw [List.map_cons, hdue, if_pos rfl, ih hrest]
      | false =>
          rw [hdue, if_neg Bool.false_ne_true] at h
          obtain ⟨rest, hrest, h⟩ := checked_bind_eq_ok h
          cases h
          rw [List.map_cons, hdue, if_neg Bool.false_ne_true, ih hrest]

/-- What a pass that returns leaves of the task in slot `i`, when it was due. -/
theorem schedRunOnce_of_due {exec : T → S → Checked S} {nowMs : UInt32} {s s' : Scheduler T}
    {st st' : S} {any : Bool} {i : Nat} {t : SchedTask T} (htask : s.tasks[i]? = some t)
    (hdue : schedIsDue nowMs t.nextMs = true)
    (h : schedRunOnce exec s nowMs st = .ok (s', st', any)) :
    s'.tasks[i]? = some (schedAdvance t nowMs) := by
  obtain ⟨r, hr, h⟩ := checked_bind_eq_ok h
  cases h
  show r.tasks[i]? = _
  rw [schedRunTasks_tasks hr, List.getElem?_map, htask, Option.map_some, hdue, if_pos rfl]

end ClimateNode.Application
