import Bulletin.Number.Decimal
/-!
# Decimal digits

The digits of a natural number: those of its tenth, and then the last one.
-/

namespace Bulletin.Number

theorem digitChars_of_lt {value : Nat} (small : value < 10) :
    digitChars value = [value.digitChar] :=
  Nat.toDigits_of_lt_base small

theorem digitChars_of_le {value : Nat} (large : 10 ≤ value) :
    digitChars value = digitChars (value / 10) ++ [(value % 10).digitChar] :=
  Nat.toDigits_of_base_le (by decide) large

theorem digits_induction {motive : Nat → Prop} (digit : ∀ value, value < 10 → motive value)
    (next : ∀ value, 10 ≤ value → motive (value / 10) → motive value) (value : Nat) :
    motive value := by
  induction value using Nat.strongRecOn with
  | ind value induction =>
      rcases Nat.lt_or_ge value 10 with small | large
      · exact digit value small
      · exact next value large (induction (value / 10) (by omega))

theorem isDigit_of_mem_digitChars {value : Nat} {c : Char} (member : c ∈ digitChars value) :
    c.isDigit = true :=
  Nat.isDigit_of_mem_toDigits (by decide) (by decide) member

theorem digitChars_ne_nil (value : Nat) : digitChars value ≠ [] :=
  Nat.toDigits_ne_nil

theorem head?_digitChars {value : Nat} (positive : 0 < value) :
    (digitChars value).head? ≠ some '0' := by
  induction value using digits_induction with
  | digit value small =>
      rw [digitChars_of_lt small, List.head?_cons, ne_eq, Option.some.injEq,
        Nat.digitChar_eq_zero]
      omega
  | next value large induction =>
      rcases List.exists_cons_of_ne_nil (digitChars_ne_nil (value / 10)) with ⟨c, rest, equal⟩
      have first := induction (by omega)
      rw [equal] at first
      rw [digitChars_of_le large, equal]
      exact first

theorem toNat_digitChar {digit : Nat} (small : digit < 10) :
    digit.digitChar.toNat - '0'.toNat = digit :=
  Nat.toNat_digitChar_sub_48_of_lt_ten small

/-! ## Values of digits -/

theorem digitsValue_eq (digits : List Char) : digitsValue digits = Nat.ofDigitChars 10 digits 0 :=
  Nat.ofDigitChars_eq_foldl.symm

@[simp] theorem digitsValue_digitChars (value : Nat) : digitsValue (digitChars value) = value := by
  rw [digitsValue_eq]
  exact Nat.ofDigitChars_ten_toDigits

theorem digitsValue_replicate_append (count : Nat) (digits : List Char) :
    digitsValue (List.replicate count '0' ++ digits) = digitsValue digits := by
  rw [digitsValue_eq, digitsValue_eq, Nat.ofDigitChars_append, Nat.ofDigitChars_replicate_zero,
    Nat.mul_zero]

theorem digitsValue_lt {digits : List Char} (allDigits : ∀ c ∈ digits, c.isDigit = true) :
    digitsValue digits < Nat.pow 10 digits.length := by
  rw [digitsValue_eq]
  induction digits with
  | nil => exact Nat.one_pos
  | cons c digits induction =>
      have others := induction fun other member => allDigits other (List.mem_cons_of_mem c member)
      have first : c.toNat - '0'.toNat ≤ 9 := by
        have bounds := Char.isDigit_iff_toNat.mp (allDigits c List.mem_cons_self)
        exact Nat.sub_le_sub_right bounds.2 48
      have scaled := Nat.mul_le_mul_left (Nat.pow 10 digits.length) first
      rw [Nat.ofDigitChars_cons, Nat.ofDigitChars_eq_ofDigitChars_zero, Nat.mul_zero,
        Nat.zero_add]
      calc Nat.pow 10 digits.length * (c.toNat - '0'.toNat) + Nat.ofDigitChars 10 digits 0
          ≤ Nat.pow 10 digits.length * 9 + Nat.ofDigitChars 10 digits 0 :=
            Nat.add_le_add_right scaled _
        _ < Nat.pow 10 digits.length * 9 + Nat.pow 10 digits.length :=
            Nat.add_lt_add_left others _
        _ = Nat.pow 10 (c :: digits).length := (Nat.mul_succ _ 9).symm

end Bulletin.Number
