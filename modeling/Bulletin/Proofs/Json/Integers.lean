import Bulletin.Json.Writer
import Bulletin.Json.Scan.Number
import Bulletin.Proofs.Json.Strings
import Bulletin.Proofs.Number.Digits
import Mathlib.Data.List.TakeDrop
/-!
# Integers read back

The scanner of numbers reads every integer of 64 bits that the writer has written, where nothing
behind it could belong to a number.
-/

namespace Bulletin.Json

def IsBoundary (rest : List Char) : Prop :=
  ∀ c ∈ rest.head?, c.isDigit = false ∧ c ≠ '.' ∧ c ≠ 'e' ∧ c ≠ 'E'

/-- A number that is written without loss: an integer of 64 bits, signed or unsigned. -/
def Number.IsExact : Json.Number → Prop
  | .integer value => -(Nat.pow 2 63 : Int) ≤ value ∧ value < (Nat.pow 2 64 : Int)
  | .real _ _ => False

theorem wholeSignificand_digitChars {value : Nat} (fits : value < Nat.pow 2 64) :
    wholeSignificand (Number.digitChars value) = ⟨value, 0⟩ := by
  induction value using Number.digits_induction with
  | digit value small =>
      have last := Number.toNat_digitChar small
      have takes : canTake 0 value = true := by simpa [canTake] using fits
      rw [Number.digitChars_of_lt small, wholeSignificand, List.foldl_cons, List.foldl_nil]
      simp only [digitOf, last, takes]
      simp
  | next value large induction =>
      have last := Number.toNat_digitChar (Nat.mod_lt value (by decide : 10 > 0))
      have joined : value / 10 * 10 + value % 10 = value := by omega
      have takes : canTake (value / 10) (value % 10) = true := by
        simpa [canTake, joined] using fits
      have before := induction (by omega)
      rw [wholeSignificand] at before ⊢
      rw [Number.digitChars_of_le large, List.foldl_append, before, List.foldl_cons,
        List.foldl_nil]
      simp only [digitOf, last, takes, joined]
      simp

theorem digitRun_append {digits rest : List Char} (areDigits : ∀ c ∈ digits, c.isDigit = true)
    (boundary : IsBoundary rest) (offset : Nat) :
    digitRun ⟨digits ++ rest, offset⟩ = (digits, ⟨rest, offset + digits.length⟩) := by
  have behind : rest.takeWhile Char.isDigit = [] ∧ rest.dropWhile Char.isDigit = rest := by
    cases rest with
    | nil => exact ⟨rfl, rfl⟩
    | cons c rest =>
        have notDigit := (boundary c rfl).1
        constructor
        · rw [List.takeWhile_cons_of_neg (by rw [notDigit]; exact Bool.false_ne_true)]
        · rw [List.dropWhile_cons_of_neg (by rw [notDigit]; exact Bool.false_ne_true)]
  rw [digitRun, List.span_eq_takeWhile_dropWhile]
  simp only [List.takeWhile_append_of_pos areDigits, List.dropWhile_append_of_pos areDigits,
    behind, List.append_nil]

/-- Behind the digits of a number, only its sign and its size matter. -/
theorem unsignedNumber_digitChars {value : Nat} (fits : value < Nat.pow 2 64) {rest : List Char}
    (boundary : IsBoundary rest) (negative : Bool) (offset : Nat) :
    ∃ behind, unsignedNumber negative ⟨Number.digitChars value ++ rest, offset⟩ =
      if !negative then .ok (.integer value, ⟨rest, behind⟩)
      else if value = 0 ∨ Nat.pow 2 63 < value then realAt true ⟨value, 0⟩ ⟨rest, behind⟩
      else .ok (.integer (-value), ⟨rest, behind⟩) := by
  have allDigits : ∀ c ∈ Number.digitChars value, c.isDigit = true :=
    fun _ => Number.isDigit_of_mem_digitChars
  have run := digitRun_append allDigits boundary offset
  have whole := wholeSignificand_digitChars fits
  rcases List.exists_cons_of_ne_nil (Number.digitChars_ne_nil value) with ⟨c, more, equal⟩
  have isDigit : c.isDigit = true :=
    Number.isDigit_of_mem_digitChars (equal ▸ List.mem_cons_self)
  have noZeros : (c = '0' && ((more ++ rest).head?.map Char.isDigit).getD false) = false := by
    rcases Nat.eq_zero_or_pos value with rfl | positive
    · cases equal
      cases rest with
      | nil => rfl
      | cons next rest => simp [(boundary next rfl).1]
    · have first := Number.head?_digitChars positive
      rw [equal] at first
      simp_all
  refine ⟨offset + (Number.digitChars value).length, ?_⟩
  rw [equal] at run whole ⊢
  rw [unsignedNumber]
  simp only [List.cons_append] at run ⊢
  simp only [isDigit, Bool.not_true, Bool.false_eq_true, if_false, noZeros, run, whole]
  split
  case h_4 => rfl
  all_goals simp_all [IsBoundary]

variable {value : Int} {rest : List Char} (offset : Nat)

theorem reads_unsignedNumber (positive : 0 ≤ value) (fits : value < (Nat.pow 2 64 : Int))
    (boundary : IsBoundary rest) :
    Reads (unsignedNumber false ⟨Number.digitChars value.natAbs ++ rest, offset⟩)
      (.integer value) rest := by
  have fitsAbsolute : value.natAbs < Nat.pow 2 64 := by omega
  have restored : (value.natAbs : Int) = value := by omega
  rcases unsignedNumber_digitChars fitsAbsolute boundary false offset with ⟨behind, equal⟩
  rw [if_pos (by simp), restored] at equal
  exact ⟨behind, equal⟩

theorem reads_unsignedNumber_of_negative (negative : value < 0)
    (fits : -(Nat.pow 2 63 : Int) ≤ value) (boundary : IsBoundary rest) :
    Reads (unsignedNumber true ⟨Number.digitChars value.natAbs ++ rest, offset⟩)
      (.integer value) rest := by
  have limits : Nat.pow 2 63 < Nat.pow 2 64 := by decide
  have fitsAbsolute : value.natAbs < Nat.pow 2 64 := by omega
  have restored : -(value.natAbs : Int) = value := by omega
  have inRange : ¬(value.natAbs = 0 ∨ Nat.pow 2 63 < value.natAbs) := by
    omega
  rcases unsignedNumber_digitChars fitsAbsolute boundary true offset with ⟨behind, equal⟩
  rw [if_neg (by simp), if_neg inRange, restored] at equal
  exact ⟨behind, equal⟩

end Bulletin.Json
