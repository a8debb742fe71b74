import Mathlib.Data.Nat.Digits.Lemmas

/-!
# Decimal numerals in ASCII

`decimalNumeral n` is the numeral of `n`, most significant digit first. It is a numeral
(`isNumeral_decimalNumeral`): digits only, at least one of them, and no leading zero in front of
others. Reading it back gives `n` (`decimalValue_decimalNumeral`). A program that computes the last
digit by a remainder and the others by a quotient follows `decimalNumeral_of_ge`.
-/

set_option autoImplicit false

namespace ClimateNode.Machine

/-- The character of the digit `d`. -/
def digitChar (d : Nat) : UInt8 := UInt8.ofNat (48 + d)

/-- `c` is the character of a digit. -/
def IsDigit (c : UInt8) : Prop := 48 ≤ c.toNat ∧ c.toNat ≤ 57

/-- The number that the characters `cs` stand for. -/
def decimalValue (cs : List UInt8) : Nat := Nat.ofDigits 10 (cs.reverse.map fun c => c.toNat - 48)

/-- A numeral without leading zeros. -/
structure IsNumeral (cs : List UInt8) : Prop where
  ne_nil : cs ≠ []
  digits : ∀ c ∈ cs, IsDigit c
  leading : 1 < cs.length → cs.head? ≠ some 48

/-- The numeral of `n`. -/
def decimalNumeral (n : Nat) : List UInt8 :=
  if n = 0 then [digitChar 0] else ((Nat.digits 10 n).map digitChar).reverse

section Digits

theorem toNat_digitChar {d : Nat} (h : d < 10) : (digitChar d).toNat = 48 + d := by
  rw [digitChar, UInt8.toNat_ofNat']
  omega

theorem isDigit_digitChar {d : Nat} (h : d < 10) : IsDigit (digitChar d) := by
  rw [IsDigit, toNat_digitChar h]
  omega

/-- The digits of a number, as characters and back. -/
theorem map_digitChar_sub {ds : List Nat} (h : ∀ d ∈ ds, d < 10) :
    (ds.map digitChar).map (fun c => c.toNat - 48) = ds := by
  rw [List.map_map]
  conv_rhs => rw [← List.map_id ds]
  apply List.map_congr_left
  intro d hd
  show (digitChar d).toNat - 48 = d
  rw [toNat_digitChar (h d hd), Nat.add_sub_cancel_left]

end Digits

section Numerals

variable {n : Nat}

theorem decimalNumeral_of_lt (h : n < 10) : decimalNumeral n = [digitChar n] := by
  rw [decimalNumeral]
  split
  · next h0 => rw [h0]
  · next h0 =>
      rw [Nat.digits_of_lt 10 n h0 h]
      rfl

/-- The last digit is the remainder, the digits before it are those of the quotient. -/
theorem decimalNumeral_of_ge (h : 10 ≤ n) :
    decimalNumeral n = decimalNumeral (n / 10) ++ [digitChar (n % 10)] := by
  have hquotient : ¬ n / 10 = 0 := by omega
  rw [decimalNumeral, if_neg (by omega), decimalNumeral, if_neg hquotient,
    Nat.digits_def' (by decide) (by omega), List.map_cons, List.reverse_cons]

theorem length_decimalNumeral_pos (n : Nat) : 0 < (decimalNumeral n).length := by
  by_cases h : n < 10
  · rw [decimalNumeral_of_lt h]
    exact Nat.succ_pos 0
  · rw [decimalNumeral_of_ge (Nat.not_lt.1 h), List.length_append]
    exact Nat.succ_pos _

/-- A number below a power of ten has at most as many digits as the exponent. -/
theorem length_decimalNumeral_le {k : Nat} (hk : 0 < k) (h : n < 10 ^ k) :
    (decimalNumeral n).length ≤ k := by
  rw [decimalNumeral]
  split
  · exact hk
  · rw [List.length_reverse, List.length_map]
    exact (Nat.digits_length_le_iff (by decide) n).2 h

theorem decimalValue_decimalNumeral (n : Nat) : decimalValue (decimalNumeral n) = n := by
  rw [decimalNumeral]
  split
  · next h => exact h.symm
  · rw [decimalValue, List.reverse_reverse,
      map_digitChar_sub fun d hd => Nat.digits_lt_base (by decide) hd]
    exact Nat.ofDigits_digits 10 n

theorem isNumeral_decimalNumeral (n : Nat) : IsNumeral (decimalNumeral n) where
  ne_nil := List.ne_nil_of_length_pos (length_decimalNumeral_pos n)
  digits := by
    intro c hc
    rw [decimalNumeral] at hc
    split at hc
    · rw [List.mem_singleton.1 hc]
      exact isDigit_digitChar (by decide)
    · obtain ⟨d, hd, rfl⟩ := List.mem_map.1 (List.mem_reverse.1 hc)
      exact isDigit_digitChar (Nat.digits_lt_base (by decide) hd)
  leading := by
    intro hlen
    rw [decimalNumeral] at hlen ⊢
    split at hlen
    · exact absurd hlen (Nat.lt_irrefl 1)
    · next h =>
        -- the first character is that of the most significant digit
        have hne : Nat.digits 10 n ≠ [] := Nat.digits_ne_nil_iff_ne_zero.2 h
        rw [if_neg h, List.head?_reverse, List.getLast?_map,
          List.getLast?_eq_getLast_of_ne_nil hne]
        intro hzero
        have hdigit := toNat_digitChar
          (Nat.digits_lt_base (by decide) (List.getLast_mem hne))
        rw [Option.some.inj hzero] at hdigit
        have hlast : (Nat.digits 10 n).getLast hne = 0 := by
          have h48 : (48 : UInt8).toNat = 48 := rfl
          omega
        exact Nat.getLast_digit_ne_zero 10 h hlast

/-- Two digits of a number below 100, with a zero in front where it has only one. -/
theorem decimalValue_twoDigits {f : Nat} (h : f < 100) :
    decimalValue [digitChar (f / 10), digitChar (f % 10)] = f := by
  have htens := toNat_digitChar (show f / 10 < 10 by omega)
  have hones := toNat_digitChar (show f % 10 < 10 by omega)
  simp only [decimalValue, List.reverse_cons, List.reverse_nil, List.nil_append, List.cons_append,
    List.map_cons, List.map_nil, htens, hones, Nat.ofDigits_cons, Nat.ofDigits_nil]
  omega

end Numerals

end ClimateNode.Machine
