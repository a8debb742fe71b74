import Mathlib.Data.List.Induction

/-!
# Runs of a step function that may fault

A system is a step function `σ → ι → Except ε σ`: from a state and an input it returns the next
state or stops. `run` folds a list of inputs. Properties of runs come from properties of one step:

- `run_keeps`: what a step keeps whenever it returns is kept by every run that returns;
- `run_of_invariant`: an invariant that every step establishes again, without stopping, holds of
  the state every run ends in;
- `run_of_history`: the same for a relation between the inputs so far and the state;
- `run_of_relation`: the same for a relation between the states of two runs along the same inputs;
- `run_of_stepsMeet`: the same for a run whose steps all meet a condition on state and input;
- `alwaysAlong_of_stepsMeet`: a property of every state along such a run;
- `alwaysAlong_iff_stepsMeet`: the condition is exact when every step outside it breaks the
  property;
- `stepsMeet_of_invariant`: an invariant turns one condition on the steps into another.
-/

set_option autoImplicit false

namespace ClimateNode.Machine

universe u v w

variable {σ : Type u} {ι : Type v} {ε : Type w}

/-- The state after the inputs `is`, in order. -/
def run (step : σ → ι → Except ε σ) (s : σ) (is : List ι) : Except ε σ := is.foldlM step s

/-- Every state of the run from `s` along `is`, both ends included, satisfies `P`, and no step of
the run stops. -/
def AlwaysAlong (step : σ → ι → Except ε σ) (P : σ → Prop) : σ → List ι → Prop
  | s, [] => P s
  | s, i :: is => P s ∧ ∃ s', step s i = .ok s' ∧ AlwaysAlong step P s' is

/-- Every step of the run from `s` along `is` starts in a state that, with its input, meets `C`. -/
def StepsMeet (step : σ → ι → Except ε σ) (C : σ → ι → Prop) : σ → List ι → Prop
  | _, [] => True
  | s, i :: is => C s i ∧ ∀ s', step s i = .ok s' → StepsMeet step C s' is

section Run

variable {step : σ → ι → Except ε σ}

@[simp] theorem run_nil (s : σ) : run step s [] = .ok s := rfl

theorem run_cons_ok {s s' : σ} {i : ι} (h : step s i = .ok s') (is : List ι) :
    run step s (i :: is) = run step s' is := by
  simp only [run, List.foldlM_cons, h]
  rfl

theorem run_append_ok {s s' : σ} {is : List ι} (h : run step s is = .ok s') (js : List ι) :
    run step s (is ++ js) = run step s' js := by
  simp only [run, List.foldlM_append] at h ⊢
  rw [h]
  rfl

/-- A run with one more input is the run followed by one step. -/
theorem run_snoc_ok {s s' : σ} {is : List ι} (h : run step s is = .ok s') (i : ι) :
    run step s (is ++ [i]) = step s' i := by
  rw [run_append_ok h]
  cases hstep : step s' i with
  | error e => simp only [run, List.foldlM_cons, hstep]; rfl
  | ok t => rw [run_cons_ok hstep, run_nil]

/-- What every step that returns keeps is kept by every run that returns. -/
theorem run_keeps {P : σ → Prop} {A : ι → Prop}
    (hstep : ∀ s i s', A i → P s → step s i = .ok s' → P s') :
    ∀ {is : List ι} {s t : σ}, (∀ i ∈ is, A i) → P s → run step s is = .ok t → P t := by
  intro is
  induction is with
  | nil =>
      intro s t _ hP hrun
      cases hrun
      exact hP
  | cons i is ih =>
      intro s t hA hP hrun
      cases hs : step s i with
      | error e =>
          simp only [run, List.foldlM_cons, hs] at hrun
          cases hrun
      | ok s' =>
          rw [run_cons_ok hs] at hrun
          exact ih (fun j hj => hA j (by simp [hj])) (hstep s i s' (hA i (by simp)) hP hs) hrun

/-- A relation between the inputs so far and the state, established again by every step, holds at
the end of every run, and no run stops. -/
theorem run_of_history {R : List ι → σ → Prop} {A : ι → Prop} {s : σ} (h0 : R [] s)
    (hstep : ∀ is s i, R is s → A i → ∃ s', step s i = .ok s' ∧ R (is ++ [i]) s') :
    ∀ is : List ι, (∀ i ∈ is, A i) → ∃ s', run step s is = .ok s' ∧ R is s' := by
  intro is
  induction is using List.reverseRecOn with
  | nil => exact fun _ => ⟨s, rfl, h0⟩
  | append_singleton is i ih =>
      -- the relation holds after `is`, and the last step establishes it again
      intro hA
      obtain ⟨t, hrun, hR⟩ := ih fun j hj => hA j (by simp [hj])
      obtain ⟨t', ht, hR'⟩ := hstep is t i hR (hA i (by simp))
      exact ⟨t', by rw [run_snoc_ok hrun, ht], hR'⟩

/-- An invariant that every step establishes again holds at the end of every run, and no run
stops. -/
theorem run_of_invariant {I : σ → Prop} {A : ι → Prop} {s : σ} (h0 : I s)
    (hstep : ∀ s i, I s → A i → ∃ s', step s i = .ok s' ∧ I s') (is : List ι)
    (hA : ∀ i ∈ is, A i) : ∃ s', run step s is = .ok s' ∧ I s' :=
  run_of_history (R := fun _ => I) h0 (fun _ s i => hstep s i) is hA

/-- A relation between two states that every input establishes again between the states after it
holds between the ends of two runs along the same inputs, and neither stops. -/
theorem run_of_relation {R : σ → σ → Prop}
    (hstep : ∀ s t i, R s t → ∃ s' t', step s i = .ok s' ∧ step t i = .ok t' ∧ R s' t')
    (is : List ι) {s t : σ} (h : R s t) :
    ∃ s' t', run step s is = .ok s' ∧ run step t is = .ok t' ∧ R s' t' := by
  induction is generalizing s t with
  | nil => exact ⟨s, t, rfl, rfl, h⟩
  | cons i is ih =>
      obtain ⟨s', t', hs, ht, h'⟩ := hstep s t i h
      rw [run_cons_ok hs, run_cons_ok ht]
      exact ih h'

end Run

section Along

variable {step : σ → ι → Except ε σ} {P : σ → Prop} {C : σ → ι → Prop}

theorem AlwaysAlong.head {s : σ} {is : List ι} (h : AlwaysAlong step P s is) : P s := by
  cases is with
  | nil => exact h
  | cons i is => exact h.1

/-- The property along a run is the property at the end of each of its prefixes. -/
theorem alwaysAlong_iff_prefix {s : σ} {is : List ι} :
    AlwaysAlong step P s is ↔
      ∀ pre, pre <+: is → ∃ t, run step s pre = .ok t ∧ P t := by
  induction is generalizing s with
  | nil =>
      constructor
      · intro h pre hpre
        rw [List.prefix_nil.1 hpre]
        exact ⟨s, rfl, h⟩
      · intro h
        obtain ⟨t, ht, hP⟩ := h [] List.nil_prefix
        cases ht
        exact hP
  | cons i is ih =>
      constructor
      · rintro ⟨hP, s', hs, hrest⟩ pre hpre
        cases pre with
        | nil => exact ⟨s, rfl, hP⟩
        | cons j pre =>
            obtain ⟨rfl, hpre'⟩ := List.cons_prefix_cons.1 hpre
            rw [run_cons_ok hs]
            exact ih.1 hrest pre hpre'
      · intro h
        obtain ⟨t, ht, hP⟩ := h [] List.nil_prefix
        cases ht
        obtain ⟨s', hs', -⟩ := h [i] (List.cons_prefix_cons.2 ⟨rfl, List.nil_prefix⟩)
        have hs : step s i = .ok s' := by
          rw [← hs']
          exact (run_snoc_ok (run_nil s) i).symm
        refine ⟨hP, s', hs, ih.2 fun pre hpre => ?_⟩
        have := h (i :: pre) (List.cons_prefix_cons.2 ⟨rfl, hpre⟩)
        rwa [run_cons_ok hs] at this

/-- An invariant that every step meeting `C` establishes again gives `P` along every run whose
steps meet `C`. -/
theorem alwaysAlong_of_stepsMeet {I : σ → Prop} (hP : ∀ s, I s → P s)
    (hstep : ∀ s i, I s → C s i → ∃ s', step s i = .ok s' ∧ I s') :
    ∀ {is : List ι} {s : σ}, I s → StepsMeet step C s is → AlwaysAlong step P s is := by
  intro is
  induction is with
  | nil => exact fun h _ => hP _ h
  | cons i is ih =>
      intro s h hC
      obtain ⟨s', hs, h'⟩ := hstep s i h hC.1
      exact ⟨hP s h, s', hs, ih h' (hC.2 s' hs)⟩

/-- The condition is exact when every step outside it leads to a state without `P`. -/
theorem alwaysAlong_iff_stepsMeet {I : σ → Prop} (hP : ∀ s, I s → P s)
    (hstep : ∀ s i, I s → C s i → ∃ s', step s i = .ok s' ∧ I s')
    (hbad : ∀ s i s', I s → ¬ C s i → step s i = .ok s' → ¬ P s')
    {is : List ι} {s : σ} (h : I s) : AlwaysAlong step P s is ↔ StepsMeet step C s is := by
  refine ⟨fun hal => ?_, alwaysAlong_of_stepsMeet hP hstep h⟩
  -- the first step outside the condition would break the property in the next state
  induction is generalizing s with
  | nil => exact trivial
  | cons i is ih =>
      obtain ⟨-, s', hs, hrest⟩ := hal
      have hC : C s i := by
        by_contra hC
        exact hbad s i s' h hC hs hrest.head
      refine ⟨hC, fun t ht => ?_⟩
      obtain ⟨u, hu, hI⟩ := hstep s i h hC
      rw [hs] at ht hu
      cases ht
      cases hu
      exact ih hI hrest

/-- Along a given run a decidable condition is decided by taking the steps. -/
instance decidableStepsMeet [∀ s i, Decidable (C s i)] :
    ∀ (s : σ) (is : List ι), Decidable (StepsMeet step C s is)
  | _, [] => isTrue trivial
  | s, i :: is =>
      match hs : step s i with
      | .error e => decidable_of_iff (C s i) (by simp [StepsMeet, hs])
      | .ok s' =>
          have := decidableStepsMeet s' is
          decidable_of_iff (C s i ∧ StepsMeet step C s' is) (by simp [StepsMeet, hs])

/-- A known step that meets the condition, in front of a run that meets it. -/
theorem stepsMeet_cons_ok {s s' : σ} {i : ι} {is : List ι} (hC : C s i) (hs : step s i = .ok s')
    (h : StepsMeet step C s' is) : StepsMeet step C s (i :: is) := by
  refine ⟨hC, fun t ht => ?_⟩
  rw [hs] at ht
  cases ht
  exact h

/-- A condition that holds of every input in every state is met by every run. -/
theorem stepsMeet_of_forall_mem : ∀ {is : List ι} {s : σ}, (∀ s, ∀ i ∈ is, C s i) →
    StepsMeet step C s is := by
  intro is
  induction is with
  | nil => exact fun _ => trivial
  | cons i is ih =>
      intro s h
      exact ⟨h s i (by simp), fun s' _ => ih fun t j hj => h t j (by simp [hj])⟩

/-- A relation between the inputs so far and the state, established again by every step that meets
`C`, holds at the end of every run whose steps meet `C`. -/
theorem run_of_stepsMeet {R : List ι → σ → Prop}
    (hstep : ∀ js s i, R js s → C s i → ∃ s', step s i = .ok s' ∧ R (js ++ [i]) s') {is : List ι}
    {s : σ} (h0 : R [] s) (hC : StepsMeet step C s is) :
    ∃ s', run step s is = .ok s' ∧ R is s' := by
  induction is generalizing s R with
  | nil => exact ⟨s, rfl, h0⟩
  | cons i is ih =>
      obtain ⟨s', hs, h'⟩ := hstep [] s i h0 hC.1
      -- the relation for the remaining inputs has the first one in front
      obtain ⟨t, ht, hR⟩ :=
        ih (R := fun js => R (i :: js)) (fun js => hstep (i :: js)) h' (hC.2 s' hs)
      exact ⟨t, by rw [run_cons_ok hs, ht], hR⟩

/-- Under an invariant of the steps that meet `C`, a condition that follows from it and `C` is met
by every run that meets `C`. -/
theorem stepsMeet_of_invariant {I : σ → Prop} {C' : σ → ι → Prop}
    (himp : ∀ s i, I s → C s i → C' s i)
    (hstep : ∀ s i s', I s → C s i → step s i = .ok s' → I s') :
    ∀ {is : List ι} {s : σ}, I s → StepsMeet step C s is → StepsMeet step C' s is := by
  intro is
  induction is with
  | nil => exact fun _ _ => trivial
  | cons i is ih =>
      intro s hI hC
      exact ⟨himp s i hI hC.1, fun s' hs => ih (hstep s i s' hI hC.1 hs) (hC.2 s' hs)⟩

end Along

end ClimateNode.Machine
