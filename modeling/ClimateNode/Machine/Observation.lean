import ClimateNode.Machine.Runs

/-!
# Runs seen from outside

What an observer sees of a run is a list of events, some for each step. `observed` collects them.
A second, total machine answers events with outputs; `answers` are its outputs and `after` is its
state.

- `run_records`: a list in the state that every step extends by the events of the step is, at the
  end of a run, extended by the events of the run;
- `run_answers`: when related states stay related, the machine taking the events of each step, and
  the outputs of the step are the machine's answers, then the outputs of a run are the answers to
  the events of the run;
- `observed_reaches`: then every event of a run comes from a state related to the machine after the
  events before it.
-/

set_option autoImplicit false

namespace ClimateNode.Machine

universe u v w x y z

variable {σ : Type u} {ι : Type v} {ε : Type w} {τ : Type x} {κ : Type y} {ο : Type z}

/-- The events of the run from `s` along `is`, in order, up to a step that stops. -/
def observed (step : σ → ι → Except ε σ) (obs : σ → ι → σ → List κ) : σ → List ι → List κ
  | _, [] => []
  | s, i :: is =>
      match step s i with
      | .ok s' => obs s i s' ++ observed step obs s' is
      | .error _ => []

/-- The state of a machine after the events `ks`. -/
def after (machine : τ → κ → τ × List ο) (t : τ) (ks : List κ) : τ :=
  ks.foldl (fun t k => (machine t k).1) t

/-- The outputs of a machine for the events `ks`, in order. -/
def answers (machine : τ → κ → τ × List ο) : τ → List κ → List ο
  | _, [] => []
  | t, k :: ks => (machine t k).2 ++ answers machine (machine t k).1 ks

section Machines

variable {machine : τ → κ → τ × List ο}

@[simp] theorem after_nil (t : τ) : after machine t [] = t := rfl

@[simp] theorem after_cons (t : τ) (k : κ) (ks : List κ) :
    after machine t (k :: ks) = after machine (machine t k).1 ks := rfl

@[simp] theorem answers_nil (t : τ) : answers machine t [] = [] := rfl

@[simp] theorem answers_cons (t : τ) (k : κ) (ks : List κ) :
    answers machine t (k :: ks) = (machine t k).2 ++ answers machine (machine t k).1 ks := rfl

theorem after_append (t : τ) (ks ls : List κ) :
    after machine t (ks ++ ls) = after machine (after machine t ks) ls := List.foldl_append

theorem answers_append (t : τ) (ks ls : List κ) :
    answers machine t (ks ++ ls) =
      answers machine t ks ++ answers machine (after machine t ks) ls := by
  induction ks generalizing t with
  | nil => rfl
  | cons k ks ih =>
      rw [List.cons_append, answers_cons, ih, answers_cons, List.append_assoc]
      rfl

/-- Outputs at a place of the events come after the outputs of what is before it. -/
theorem answers_at (t : τ) (pre : List κ) (k : κ) (post : List κ) :
    answers machine t (pre ++ k :: post) =
      answers machine t pre ++ (machine (after machine t pre) k).2 ++
        answers machine (after machine t (pre ++ [k])) post := by
  rw [answers_append, answers_cons, after_append, List.append_assoc]
  rfl

end Machines

section Observed

variable {step : σ → ι → Except ε σ} {obs : σ → ι → σ → List κ}

@[simp] theorem observed_nil (s : σ) : observed step obs s [] = [] := rfl

theorem observed_cons_ok {s s' : σ} {i : ι} (h : step s i = .ok s') (is : List ι) :
    observed step obs s (i :: is) = obs s i s' ++ observed step obs s' is := by
  rw [observed, h]

/-- Selecting among the events of a run is selecting in each step. -/
theorem observed_filterMap {μ : Type z} (f : κ → Option μ) (s : σ) (is : List ι) :
    (observed step obs s is).filterMap f =
      observed step (fun s i s' => (obs s i s').filterMap f) s is := by
  induction is generalizing s with
  | nil => rfl
  | cons i is ih =>
      cases h : step s i with
      | error e => simp only [observed, h, List.filterMap_nil]
      | ok s' => rw [observed_cons_ok h, observed_cons_ok h, List.filterMap_append, ih]

variable {C : σ → ι → Prop}

/-- When related states stay related and the outputs of a step are the answers to its events, the
outputs of a run are the answers to the events of the run. -/
theorem run_answers {machine : τ → κ → τ × List ο} {R : σ → τ → Prop} {f : σ → List ο}
    (hstep : ∀ s i t, R s t → C s i → ∃ s', step s i = .ok s' ∧
      R s' (after machine t (obs s i s')) ∧ f s' = f s ++ answers machine t (obs s i s')) :
    ∀ {is : List ι} {s : σ} {t : τ}, R s t → StepsMeet step C s is →
      ∃ s', run step s is = .ok s' ∧ R s' (after machine t (observed step obs s is)) ∧
        f s' = f s ++ answers machine t (observed step obs s is) := by
  intro is
  induction is with
  | nil => exact fun {s t} h _ => ⟨s, rfl, h, (List.append_nil _).symm⟩
  | cons i is ih =>
      intro s t h hC
      obtain ⟨s₁, hs, hrel, hout⟩ := hstep s i t h hC.1
      obtain ⟨s', hrun, hrel', hout'⟩ := ih hrel (hC.2 s₁ hs)
      refine ⟨s', by rw [run_cons_ok hs, hrun], ?_, ?_⟩
      · rw [observed_cons_ok hs, after_append]
        exact hrel'
      · rw [hout', hout, observed_cons_ok hs, answers_append, List.append_assoc]

/-- When related states stay related and a step is at most one event, every event of a run is that
of a step from a state related to the machine after the events before it. -/
theorem observed_reaches {machine : τ → κ → τ × List ο} {R : σ → τ → Prop}
    (hone : ∀ s i s', (obs s i s').length ≤ 1)
    (hstep : ∀ s i t, R s t → C s i → ∃ s', step s i = .ok s' ∧
      R s' (after machine t (obs s i s'))) {k : κ} {post : List κ} :
    ∀ {is : List ι} {s : σ} {t : τ} {pre : List κ}, R s t → StepsMeet step C s is →
      observed step obs s is = pre ++ k :: post →
      ∃ s₁ i s₂, R s₁ (after machine t pre) ∧ step s₁ i = .ok s₂ ∧ obs s₁ i s₂ = [k] := by
  intro is
  induction is with
  | nil =>
      intro s t pre _ _ hsplit
      exact absurd hsplit.symm (List.append_ne_nil_of_right_ne_nil pre (List.cons_ne_nil k post))
  | cons i is ih =>
      intro s t pre h hC hsplit
      obtain ⟨s₁, hs, hrel⟩ := hstep s i t h hC.1
      rw [observed_cons_ok hs] at hsplit
      -- the step is nothing, the event itself, or the first event before it
      cases hobs : obs s i s₁ with
      | nil =>
          rw [hobs] at hsplit hrel
          exact ih hrel (hC.2 s₁ hs) hsplit
      | cons x xs =>
          obtain rfl : xs = [] := by
            have hlen := hone s i s₁
            rw [hobs, List.length_cons] at hlen
            exact List.length_eq_zero_iff.1 (by omega)
          rw [hobs] at hsplit hrel
          cases pre with
          | nil =>
              obtain ⟨rfl, -⟩ := List.cons.inj hsplit
              exact ⟨s, i, s₁, h, hs, hobs⟩
          | cons y pre =>
              obtain ⟨rfl, hrest⟩ := List.cons.inj hsplit
              have hrest' : observed step obs s₁ is = pre ++ k :: post := hrest
              exact ih (t := (machine t x).1) hrel (hC.2 s₁ hs) hrest'

/-- A list that every step extends by its events is extended by the events of the run. -/
theorem run_records {f : σ → List κ} {I : σ → Prop}
    (hstep : ∀ s i s', I s → C s i → step s i = .ok s' →
      I s' ∧ f s' = f s ++ obs s i s') :
    ∀ {is : List ι} {s s' : σ}, I s → StepsMeet step C s is → run step s is = .ok s' →
      f s' = f s ++ observed step obs s is := by
  intro is
  induction is with
  | nil =>
      intro s s' _ _ hrun
      cases hrun
      exact (List.append_nil _).symm
  | cons i is ih =>
      intro s s' hI hC hrun
      cases hs : step s i with
      | error e =>
          simp only [run, List.foldlM_cons, hs] at hrun
          cases hrun
      | ok s₁ =>
          obtain ⟨hI₁, hrec⟩ := hstep s i s₁ hI hC.1 hs
          rw [run_cons_ok hs] at hrun
          rw [ih hI₁ (hC.2 s₁ hs) hrun, hrec, observed_cons_ok hs, List.append_assoc]

end Observed

end ClimateNode.Machine
