import Mathlib.Data.List.Basic
import Mathlib.Data.List.TakeWhile

/-!
# Labelled fields

A line of text is a row of labels with a field between each two of them. It is written by putting
them one after the other (`writeFields`) and read by looking for each label where the one before it
ended (`readFields`): a field goes on up to the first character of the next label. When no field
holds that character, reading gives back the fields (`readFields_writeFields`).

A text of many lines is the lines with an end mark behind each of them. When no line holds the mark,
splitting the text there gives back the lines (`splitOn_markedLines`).
-/

set_option autoImplicit false

namespace ClimateNode.Machine

universe u

variable {α : Type u}

/-- The labels with the fields between them. -/
def writeFields : List (List α) → List (List α) → List α
  | label :: labels, field :: fields => label ++ field ++ writeFields labels fields
  | [label], [] => label
  | _, _ => []

/-- There is one label more than there are fields, and no field holds the first character of the
label behind it. -/
def FieldsFit : List (List α) → List (List α) → Prop
  | [_], [] => True
  | _ :: next :: labels, field :: fields =>
      (∃ c, next.head? = some c ∧ c ∉ field) ∧ FieldsFit (next :: labels) fields
  | _, _ => False

/-- The lines, with the mark `mark` behind each of them. -/
def markedLines (mark : α) (lines : List (List α)) : List α := lines.flatMap (· ++ [mark])

/-- A row of labels starts with the first one. -/
theorem head?_writeFields {label : List α} {labels fields : List (List α)} {c : α}
    (h : FieldsFit (label :: labels) fields) (hc : label.head? = some c) :
    ∃ rest, writeFields (label :: labels) fields = c :: rest := by
  cases label with
  | nil => cases hc
  | cons d label =>
      cases hc
      cases fields with
      | nil =>
          cases labels with
          | nil => exact ⟨label, rfl⟩
          | cons next labels => exact h.elim
      | cons field fields => exact ⟨label ++ field ++ writeFields labels fields, rfl⟩

/-- Every character of the text is one of a label or one of a field. -/
theorem mem_writeFields {labels fields : List (List α)} {c : α}
    (h : c ∈ writeFields labels fields) : (∃ l ∈ labels, c ∈ l) ∨ ∃ f ∈ fields, c ∈ f := by
  induction labels, fields using writeFields.induct with
  | case1 label labels field fields ih =>
      rw [writeFields, List.mem_append, List.mem_append] at h
      rcases h with (h | h) | h
      · exact Or.inl ⟨label, List.mem_cons_self .., h⟩
      · exact Or.inr ⟨field, List.mem_cons_self .., h⟩
      · rcases ih h with ⟨l, hl, hc⟩ | ⟨f, hf, hc⟩
        · exact Or.inl ⟨l, List.mem_cons_of_mem _ hl, hc⟩
        · exact Or.inr ⟨f, List.mem_cons_of_mem _ hf, hc⟩
  | case2 label => exact Or.inl ⟨label, List.mem_singleton_self label, h⟩
  | case3 labels fields hmore hone => simp [writeFields] at h

/-- A row is as long as its labels and fields together. -/
theorem length_writeFields {labels fields : List (List α)} (h : FieldsFit labels fields) :
    (writeFields labels fields).length = labels.flatten.length + fields.flatten.length := by
  induction labels, fields using FieldsFit.induct with
  | case1 label =>
      rw [List.flatten_cons, List.flatten_nil, List.append_nil]
      rfl
  | case2 label next labels field fields ih =>
      rw [writeFields, List.length_append, List.length_append, ih h.2]
      simp only [List.flatten_cons, List.length_append]
      omega
  | case3 labels fields hone hmore => exact absurd h (by simp [FieldsFit])

section Reading

variable [DecidableEq α]

/-- The fields between the labels, if the text is a row of these labels. -/
def readFields : List (List α) → List α → Option (List (List α))
  | [], _ => none
  | [label], text => if text = label then some [] else none
  | label :: next :: labels, text => do
      let rest ← text.dropPrefix? label
      -- the field ends where the next label can begin
      let goesOn := fun c => decide (some c ≠ next.head?)
      let fields ← readFields (next :: labels) (rest.dropWhile goesOn)
      return rest.takeWhile goesOn :: fields

/-- A field ends at the first character of the label behind it. -/
theorem span_field {field rest next : List α} {c : α} (hnext : next.head? = some c)
    (hfield : c ∉ field) :
    (field ++ c :: rest).takeWhile (fun x => decide (some x ≠ next.head?)) = field ∧
      (field ++ c :: rest).dropWhile (fun x => decide (some x ≠ next.head?)) = c :: rest := by
  have hin : ∀ x ∈ field, decide (some x ≠ next.head?) = true := by
    intro x hx
    rw [hnext]
    refine decide_eq_true fun heq => hfield ?_
    rw [← Option.some.inj heq]
    exact hx
  have hstop : decide (some c ≠ next.head?) = false := by
    rw [hnext]
    exact decide_eq_false fun hne => hne rfl
  rw [List.takeWhile_append_of_pos hin, List.dropWhile_append_of_pos hin, List.takeWhile_cons,
    List.dropWhile_cons, hstop]
  exact ⟨List.append_nil field, rfl⟩

/-- Reading gives back the fields. -/
theorem readFields_writeFields {labels fields : List (List α)} (h : FieldsFit labels fields) :
    readFields labels (writeFields labels fields) = some fields := by
  induction labels, fields using FieldsFit.induct with
  | case1 label => exact if_pos rfl
  | case2 label next labels field fields ih =>
      obtain ⟨⟨c, hc, hfield⟩, hrest⟩ := h
      obtain ⟨rest, htext⟩ := head?_writeFields hrest hc
      obtain ⟨htake, hskip⟩ := span_field hc hfield
      have hdrop : (label ++ field ++ writeFields (next :: labels) fields).dropPrefix? label =
          some (field ++ writeFields (next :: labels) fields) := by
        rw [List.append_assoc]
        exact List.dropPrefix?_append_of_beq _ (beq_self_eq_true label)
      rw [← htext] at htake hskip
      rw [writeFields, readFields]
      simp only [hdrop, hskip, htake, ih hrest, Option.bind_eq_bind, Option.bind_some]
      rfl
  | case3 labels fields hone hmore => exact absurd h (by simp [FieldsFit])

/-- A text with another second label is not read. -/
theorem readFields_of_other {first second third field rest : List α} {labels : List (List α)}
    {c : α} (hsecond : second.head? = some c) (hfield : c ∉ field)
    (hother : (c :: rest).dropPrefix? second = none) :
    readFields (first :: second :: third :: labels) (first ++ field ++ c :: rest) = none := by
  have hdrop : (first ++ field ++ c :: rest).dropPrefix? first = some (field ++ c :: rest) := by
    rw [List.append_assoc]
    exact List.dropPrefix?_append_of_beq _ (beq_self_eq_true first)
  have hnone : readFields (second :: third :: labels) (c :: rest) = none := by
    rw [readFields, hother]
    rfl
  rw [readFields]
  simp only [hdrop, (span_field hsecond hfield).2, hnone, Option.bind_eq_bind, Option.bind_some,
    Option.bind_none]

/-- Splitting at the mark gives back the lines, and an empty rest behind the last one. -/
theorem splitOn_markedLines {mark : α} {lines : List (List α)} (h : ∀ line ∈ lines, mark ∉ line) :
    (markedLines mark lines).splitOn mark = lines ++ [[]] := by
  induction lines with
  | nil => rfl
  | cons line lines ih =>
      have hline := h line (List.mem_cons_self ..)
      have hrest := ih fun x hx => h x (List.mem_cons_of_mem _ hx)
      rw [markedLines, List.flatMap_cons, List.append_assoc, List.singleton_append,
        List.splitOn_append_cons_self_of_not_mem hline, List.cons_append, ← hrest]
      rfl

end Reading

end ClimateNode.Machine
