import Bulletin.Number.Hexadecimal
import Bulletin.Proofs.Number.Hexadecimal
import Bulletin.Proofs.Outcome
import Bulletin.Proofs.Text.ByteOrder
/-!
# Words of digits

The bytes of a text are those of digits exactly where its characters are digits, and then there is
one byte for each of them. Digits that have no more bits than a word are read as one without a
fault, and its value is theirs.
-/

namespace Bulletin.Number

/-! ## Digits as bytes -/

theorem isSome_hexByteValue? (byte : UInt8) : (hexByteValue? byte).isSome = isHexByte byte := by
  have each : ∀ code : Fin 256, (hexByteValue? (UInt8.ofNat code.val)).isSome =
      isHexByte (UInt8.ofNat code.val) := by decide +kernel
  have here := each ⟨byte.toNat, byte.toNat_lt⟩
  rwa [UInt8.ofNat_toNat] at here

theorem lt_of_isHexByte {byte : UInt8} (isDigit : isHexByte byte = true) : byte.toNat < 128 := by
  rw [← isSome_hexByteValue?] at isDigit
  rcases Option.isSome_iff_exists.mp isDigit with ⟨digit, isDigit⟩
  exact lt_of_hexValue? isDigit

/-- The first of several bytes of a character is no digit. -/
theorem isHexByte_leadingByte {point : Nat} (large : 128 ≤ point) (bound : point < 1114112) :
    isHexByte (UInt8.ofNat (Text.leadingByte point)) = false := by
  have above : 128 ≤ Text.leadingByte point := by
    rw [Text.leadingByte, Text.furtherBytes]
    split_ifs
    all_goals simp only [Text.leadingMark]
    all_goals omega
  by_contra isDigit
  have below := lt_of_isHexByte (Bool.not_eq_false _ ▸ isDigit)
  rw [UInt8.toNat_ofNat_of_lt' (Text.leadingByte_lt bound)] at below
  omega

theorem all_isHexByte_utf8EncodeChar (c : Char) :
    (String.utf8EncodeChar c).all isHexByte = (hexValue? c).isSome := by
  by_cases small : c.toNat < 128
  · exact Text.of_ascii
      (P := fun c => (String.utf8EncodeChar c).all isHexByte = (hexValue? c).isSome)
      (by decide +kernel) small
  · have noDigit : hexValue? c = none := by
      cases isDigit : hexValue? c with
      | none => rfl
      | some digit => exact absurd (lt_of_hexValue? isDigit) small
    rw [Text.utf8EncodeChar_eq, List.all_cons,
      isHexByte_leadingByte (Nat.not_lt.mp small) (Text.toNat_lt c), noDigit]
    rfl

theorem map_hexByteValue?_utf8EncodeChar {c : Char} {digit : Fin 16}
    (isDigit : hexValue? c = some digit) :
    (String.utf8EncodeChar c).map hexByteValue? = [some digit] :=
  Text.of_ascii
    (P := fun c => ∀ digit, hexValue? c = some digit →
      (String.utf8EncodeChar c).map hexByteValue? = [some digit])
    (by decide +kernel) (lt_of_hexValue? isDigit) digit isDigit

theorem all_isHexByte_bytes (chars : List Char) :
    (Text.bytes (String.ofList chars)).all isHexByte = (chars.mapM hexValue?).isSome := by
  rw [Text.bytes_eq_flatMap, String.toList_ofList, List.all_flatMap, isSome_mapM_hexValue?]
  simp only [all_isHexByte_utf8EncodeChar]

theorem map_hexByteValue?_bytes {chars : List Char} {digits : List (Fin 16)}
    (read : chars.mapM hexValue? = some digits) :
    (Text.bytes (String.ofList chars)).map hexByteValue? = digits.map some := by
  rw [Text.bytes_eq_flatMap, String.toList_ofList]
  induction chars generalizing digits with
  | nil =>
      cases read
      rfl
  | cons c rest induction =>
      simp only [List.mapM_cons, Option.bind_eq_bind, Option.bind_eq_some_iff, Option.pure_def,
        Option.some.injEq] at read
      rcases read with ⟨digit, isDigit, others, areDigits, rfl⟩
      rw [List.flatMap_cons, List.map_append, map_hexByteValue?_utf8EncodeChar isDigit,
        induction areDigits]
      rfl

theorem length_of_map_hexByteValue? {bytes : List UInt8} {digits : List (Fin 16)}
    (areDigits : bytes.map hexByteValue? = digits.map some) : bytes.length = digits.length := by
  simpa using congrArg List.length areDigits

/-! ## Values of digits -/

def numeral (start : Nat) (digits : List (Fin 16)) : Nat :=
  digits.foldl (fun value digit => 16 * value + digit.val) start

@[simp] theorem numeral_nil (start : Nat) : numeral start [] = start := rfl

@[simp] theorem numeral_cons (start : Nat) (digit : Fin 16) (digits : List (Fin 16)) :
    numeral start (digit :: digits) = numeral (16 * start + digit.val) digits := rfl

theorem le_numeral (start : Nat) (digits : List (Fin 16)) : start ≤ numeral start digits := by
  induction digits generalizing start with
  | nil => exact Nat.le_refl start
  | cons digit digits induction =>
      have later := induction (16 * start + digit.val)
      rw [numeral_cons]
      omega

theorem numeral_lt (start : Nat) (digits : List (Fin 16)) :
    numeral start digits < (start + 1) * 16 ^ digits.length := by
  induction digits generalizing start with
  | nil => simp
  | cons digit digits induction =>
      have small := digit.isLt
      calc numeral (16 * start + digit.val) digits
          < (16 * start + digit.val + 1) * 16 ^ digits.length := induction _
        _ ≤ (start + 1) * 16 * 16 ^ digits.length := Nat.mul_le_mul_right _ (by omega)
        _ = (start + 1) * 16 ^ (digit :: digits).length := by
            rw [List.length_cons, Nat.pow_succ', Nat.mul_assoc]

/-! ## Words read -/

namespace Word

variable {width : Nat}

theorem plus_ofNat {value other : Nat} (fits : value + other < 2 ^ width) :
    plus (BitVec.ofNat width value) (BitVec.ofNat width other) =
      .ok (BitVec.ofNat width (value + other)) := by
  have small : value < 2 ^ width := by omega
  have smallOther : other < 2 ^ width := by omega
  rw [plus, BitVec.uaddOverflow, BitVec.toNat_ofNat, BitVec.toNat_ofNat, Nat.mod_eq_of_lt small,
    Nat.mod_eq_of_lt smallOther, if_neg (by simpa using fits), BitVec.ofNat_add]

theorem times_ofNat {value factor : Nat} (small : value < 2 ^ width)
    (smallFactor : factor < 2 ^ width) (fits : value * factor < 2 ^ width) :
    times (BitVec.ofNat width value) (BitVec.ofNat width factor) =
      .ok (BitVec.ofNat width (value * factor)) := by
  rw [times, BitVec.umulOverflow, BitVec.toNat_ofNat, BitVec.toNat_ofNat, Nat.mod_eq_of_lt small,
    Nat.mod_eq_of_lt smallFactor, if_neg (by simpa using fits), BitVec.ofNat_mul]

theorem readDigits_of_fits (wide : 16 < 2 ^ width) {bytes : List UInt8} {digits : List (Fin 16)}
    {start : Nat} (areDigits : bytes.map hexByteValue? = digits.map some)
    (fits : numeral start digits < 2 ^ width) :
    readDigits (BitVec.ofNat width start) bytes =
      .ok (BitVec.ofNat width (numeral start digits)) := by
  induction digits generalizing bytes start with
  | nil =>
      cases List.map_eq_nil_iff.mp areDigits
      rfl
  | cons digit digits induction =>
      rcases List.map_eq_cons_iff.mp areDigits with ⟨byte, rest, rfl, isDigit, restDigits⟩
      rw [numeral_cons] at fits
      have room : start * 16 + digit.val < 2 ^ width := by
        have soFar := le_numeral (16 * start + digit.val) digits
        omega
      have shifted : times (BitVec.ofNat width start) 16 = .ok (BitVec.ofNat width (start * 16)) :=
        times_ofNat (by omega) wide (show start * 16 < 2 ^ width by omega)
      simp only [readDigits, isDigit, shifted, plus_ofNat room, Outcome.ok_bind]
      rw [numeral_cons, Nat.mul_comm]
      exact induction restDigits (Nat.mul_comm 16 start ▸ fits)

theorem ofHex_of_digits {bytes : List UInt8} {digits : List (Fin 16)}
    (areDigits : bytes.map hexByteValue? = digits.map some) (notEmpty : 0 < digits.length) :
    ofHex width bytes = readDigits (BitVec.ofNat width 0) bytes := by
  -- The first byte is that of a digit, and a plus sign is none.
  rcases List.exists_cons_of_length_pos notEmpty with ⟨digit, others, rfl⟩
  rcases List.map_eq_cons_iff.mp areDigits with ⟨byte, rest, rfl, isDigit, -⟩
  have noPlus : byte ≠ 0x2B := by
    rintro rfl
    have noDigit : hexByteValue? 0x2B = none := by decide
    cases noDigit.symm.trans isDigit
  unfold ofHex
  split
  next equal => exact absurd equal (List.cons_ne_nil _ _)
  next equal => exact absurd (List.cons_eq_cons.mp equal).1 noPlus
  next equal => exact absurd (List.cons_eq_cons.mp equal).1 noPlus
  next => rfl

theorem exists_ofHex_of_fits (width : Nat) (wide : 4 < width) {bytes : List UInt8}
    {digits : List (Fin 16)} (areDigits : bytes.map hexByteValue? = digits.map some)
    (notEmpty : 0 < digits.length) (fits : 4 * digits.length ≤ width) :
    ∃ word : BitVec width, ofHex width bytes = .ok word ∧ word.toNat = numeral 0 digits := by
  have holdsBase : 2 ^ 4 < 2 ^ width := Nat.pow_lt_pow_right (by decide) wide
  have holdsAll : 16 ^ digits.length ≤ 2 ^ width :=
    calc 16 ^ digits.length = 2 ^ (4 * digits.length) := (Nat.pow_mul 2 4 digits.length).symm
      _ ≤ 2 ^ width := Nat.pow_le_pow_right (by decide) fits
  have small : numeral 0 digits < 2 ^ width := by
    have below := numeral_lt 0 digits
    omega
  refine ⟨BitVec.ofNat width (numeral 0 digits), ?_, ?_⟩
  · rw [ofHex_of_digits areDigits notEmpty, readDigits_of_fits holdsBase areDigits small]
  · rw [BitVec.toNat_ofNat, Nat.mod_eq_of_lt small]

end Word

end Bulletin.Number
