import ClimateNode.Machine.TextFields
import ClimateNode.Service.LogTexts

/-!
# Reading log fields back

The fields of a log line are numbers, numbers with two decimals, and names in capitals. Each reader
here accepts no field but a well-formed one in range, and what the logger writes for a value reads
back as that value. No such field holds a character that a label of a log line begins with, or the
end of a line (`IsFieldChar.not_stop`).
-/

set_option autoImplicit false

namespace ClimateNode.Service

open ClimateNode.Core ClimateNode.Machine

instance (c : UInt8) : Decidable (IsDigit c) := inferInstanceAs (Decidable (_ ∧ _))

/-- The number that a field of digits stands for. -/
def readNumber (field : List UInt8) : Option Nat :=
  if 0 < field.length ∧ field.all (fun c => decide (IsDigit c)) = true then
    some (decimalValue field)
  else none

/-- A number of hundredths: an integer part, a point and two digits. -/
def readHundredths (field : List UInt8) : Option Nat :=
  match field.splitOn 0x2E with
  | [integer, frac] => do
      let n ← readNumber integer
      let m ← readNumber frac
      if frac.length = 2 then some (n * 100 + m) else none
  | _ => none

/-- The same behind an optional sign. -/
def readSigned (field : List UInt8) : Option Int :=
  if field.head? = some 0x2D then (readHundredths field.tail).map fun n : Nat => -(n : Int)
  else (readHundredths field).map fun n : Nat => (n : Int)

/-- A number that fits `uint32_t`. -/
def asU32 (n : Nat) : Option UInt32 := if n < 4294967296 then some (UInt32.ofNat n) else none

/-- A number that fits `int32_t`. -/
def asI32 (z : Int) : Option Int32 :=
  if -2147483648 ≤ z ∧ z ≤ 2147483647 then some (Int32.ofInt z) else none

/-- A character of a field: a capital, an underscore, a digit, a point or a sign. -/
def IsFieldChar (c : UInt8) : Prop := IsNameChar c ∨ IsDigit c ∨ c = 0x2E ∨ c = 0x2D

/-- The characters that end a field or a line: a blank, `]`, and the end of a line. -/
def isStop (c : UInt8) : Bool := c = 0x20 || c = 0x5D || c = 0x0D || c = 0x0A

instance (c : UInt8) : Decidable (IsFieldChar c) := inferInstanceAs (Decidable (_ ∨ _ ∨ _ ∨ _))

theorem IsFieldChar.not_stop {c : UInt8} (h : IsFieldChar c) : isStop c = false := by
  rw [← Bool.not_eq_true]
  intro hstop
  simp only [isStop, Bool.or_eq_true, decide_eq_true_eq] at hstop
  rcases hstop with ((rfl | rfl) | rfl) | rfl
  · exact absurd h (by decide)
  · exact absurd h (by decide)
  · exact absurd h (by decide)
  · exact absurd h (by decide)

section Numbers

theorem readNumber_of_digits {field : List UInt8} (hne : field ≠ [])
    (h : ∀ c ∈ field, IsDigit c) : readNumber field = some (decimalValue field) :=
  if_pos ⟨List.length_pos_of_ne_nil hne,
    List.all_eq_true.2 fun c hc => decide_eq_true (h c hc)⟩

theorem readNumber_decimalNumeral (n : Nat) : readNumber (decimalNumeral n) = some n := by
  have hnumeral := isNumeral_decimalNumeral n
  rw [readNumber_of_digits hnumeral.ne_nil hnumeral.digits, decimalValue_decimalNumeral]

/-- Zeros in front do not count. -/
theorem decimalValue_zeros (k : Nat) (cs : List UInt8) :
    decimalValue (List.replicate k 0x30 ++ cs) = decimalValue cs := by
  have hzeros : (List.replicate k (0x30 : UInt8)).map (fun c => c.toNat - 48) =
      List.replicate k 0 := by
    rw [List.map_replicate]
    rfl
  rw [decimalValue, decimalValue, List.reverse_append, List.reverse_replicate, List.map_append,
    hzeros, Nat.ofDigits_append, Nat.ofDigits_replicate_zero, Nat.mul_zero, Nat.add_zero]

theorem isDigit_paddedChars (x : UInt32) (width : UInt8) :
    ∀ c ∈ paddedChars x width, IsDigit c := by
  intro c hc
  rcases List.mem_append.1 hc with hc | hc
  · rw [List.eq_of_mem_replicate hc]
    decide
  · exact (isNumeral_decimalNumeral x.toNat).digits c hc

theorem readNumber_paddedChars (x : UInt32) (width : UInt8) :
    readNumber (paddedChars x width) = some x.toNat := by
  have hne : paddedChars x width ≠ [] := by
    rw [paddedChars]
    exact List.append_ne_nil_of_right_ne_nil _ (isNumeral_decimalNumeral _).ne_nil
  rw [readNumber_of_digits hne (isDigit_paddedChars x width), paddedChars, decimalValue_zeros,
    decimalValue_decimalNumeral]

/-- The fraction behind the point. -/
def fracChars (mag : Nat) : List UInt8 :=
  [digitChar (mag % 100 / 10), digitChar (mag % 100 % 10)]

theorem isDigit_fracChars (mag : Nat) : ∀ c ∈ fracChars mag, IsDigit c := by
  intro c hc
  rcases List.mem_pair.1 hc with rfl | rfl
  · exact isDigit_digitChar (by omega)
  · exact isDigit_digitChar (by omega)

theorem not_mem_of_digits {cs : List UInt8} (h : ∀ c ∈ cs, IsDigit c) : (0x2E : UInt8) ∉ cs :=
  fun hmem => absurd (h _ hmem) (by decide)

theorem readHundredths_fixedChars (mag : Nat) : readHundredths (fixedChars mag) = some mag := by
  have hint := (isNumeral_decimalNumeral (mag / 100)).digits
  have hsplit : (fixedChars mag).splitOn 0x2E = [decimalNumeral (mag / 100), fracChars mag] := by
    rw [fixedChars, List.append_assoc, List.singleton_append,
      List.splitOn_append_cons_self_of_not_mem (not_mem_of_digits hint)]
    exact congrArg _ (List.splitOn_eq_singleton (not_mem_of_digits (isDigit_fracChars mag)))
  have hfrac : readNumber (fracChars mag) = some (mag % 100) := by
    have hval : decimalValue (fracChars mag) = mag % 100 :=
      decimalValue_twoDigits (Nat.mod_lt mag (by decide))
    have hne : fracChars mag ≠ [] := List.cons_ne_nil _ _
    rw [readNumber_of_digits hne (isDigit_fracChars mag), hval]
  have hmag : mag / 100 * 100 + mag % 100 = mag := by omega
  rw [readHundredths, hsplit]
  simp only [readNumber_decimalNumeral, hfrac, Option.bind_eq_bind, Option.bind_some, hmag]
  rfl

theorem readSigned_fixed (x : Int32) :
    readSigned (signChars x ++ fixedChars x.toInt.natAbs) = some x.toInt := by
  by_cases hx : x < 0
  · have hneg : x.toInt < 0 := Int32.lt_iff_toInt_lt.1 hx
    have habs : -(x.toInt.natAbs : Int) = x.toInt := by omega
    rw [signChars, if_pos hx, List.singleton_append, readSigned, List.head?_cons, if_pos rfl,
      List.tail_cons, readHundredths_fixedChars, Option.map_some, habs]
  · have hpos : 0 ≤ x.toInt := Int32.le_iff_toInt_le.1 (Int32.not_lt.1 hx)
    have habs : (x.toInt.natAbs : Int) = x.toInt := by omega
    have hhead : (fixedChars x.toInt.natAbs).head? ≠ some 0x2D := by
      have hnumeral := isNumeral_decimalNumeral (x.toInt.natAbs / 100)
      obtain ⟨c, cs, hcs⟩ := List.exists_cons_of_ne_nil hnumeral.ne_nil
      have hdigit := hnumeral.digits c (by rw [hcs]; exact List.mem_cons_self ..)
      rw [fixedChars, hcs]
      intro heq
      rw [Option.some.inj heq] at hdigit
      exact absurd hdigit (by decide)
    rw [signChars, if_neg hx, List.nil_append, readSigned, if_neg hhead,
      readHundredths_fixedChars, Option.map_some, habs]

theorem asU32_toNat (x : UInt32) : asU32 x.toNat = some x := by
  rw [asU32, if_pos x.toNat_lt, UInt32.ofNat_toNat]

theorem asI32_toInt (x : Int32) : asI32 x.toInt = some x := by
  rw [asI32, if_pos ⟨(inInt32_toInt x).1, (inInt32_toInt x).2⟩, Int32.ofInt_toInt]

end Numbers

/-! ## The characters of the fields -/

theorem isFieldChar_of_digits {cs : List UInt8} (h : ∀ c ∈ cs, IsDigit c) :
    ∀ c ∈ cs, IsFieldChar c := fun c hc => Or.inr (Or.inl (h c hc))

theorem isFieldChar_fixedChars (mag : Nat) : ∀ c ∈ fixedChars mag, IsFieldChar c := by
  intro c hc
  rcases List.mem_append.1 hc with hc | hc
  · rcases List.mem_append.1 hc with hc | hc
    · exact isFieldChar_of_digits (isNumeral_decimalNumeral _).digits c hc
    · exact Or.inr (Or.inr (Or.inl (List.mem_singleton.1 hc)))
  · exact isFieldChar_of_digits (isDigit_fracChars mag) c hc

theorem isFieldChar_signed (x : Int32) (mag : Nat) :
    ∀ c ∈ signChars x ++ fixedChars mag, IsFieldChar c := by
  intro c hc
  rcases List.mem_append.1 hc with hc | hc
  · rw [signChars] at hc
    split at hc
    · exact Or.inr (Or.inr (Or.inr (List.mem_singleton.1 hc)))
    · cases hc
  · exact isFieldChar_fixedChars mag c hc

end ClimateNode.Service
