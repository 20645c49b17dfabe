import Bulletin.Color
import Bulletin.Proofs.Number.Word
/-!
# Colors read

The digits of a color are read as one word, from which its channels are cut out. Six digits have
room in a long word and three in a short one, so every text is read without a fault: it is the color
of its digits, or none.
-/

namespace Bulletin

/-! ## Colors of digits -/

def Channel.ofDigits (high low : Fin 16) : Channel :=
  ⟨16 * high.val + low.val, by omega⟩

/-- The color of six digits, or of three that each stand for two equal ones. -/
def Rgb.ofDigits? : List (Fin 16) → Option Rgb
  | [a, b, c, d, e, f] =>
      some ⟨Channel.ofDigits a b, Channel.ofDigits c d, Channel.ofDigits e f⟩
  | [a, b, c] => some ⟨Channel.ofDigits a a, Channel.ofDigits b b, Channel.ofDigits c c⟩
  | _ => none

/-! ## Channels of a word -/

namespace Channel

theorem ofByte_setWidth {word : BitVec width} {high low : Fin 16}
    (lastByte : word.toNat % 256 = 16 * high.val + low.val) :
    ofByte (word.setWidth 8) = ofDigits high low := by
  apply Fin.ext
  change (word.setWidth 8).toNat = 16 * high.val + low.val
  rw [BitVec.toNat_setWidth]
  exact lastByte

theorem ofLastDigit_eq_ok {word : BitVec 16} {digit : Fin 16}
    (lastDigit : word.toNat % 16 = digit.val) :
    ofLastDigit word = .ok (ofDigits digit digit) := by
  have masked : (word &&& 0xF).toNat = word.toNat % 16 := by
    rw [BitVec.toNat_and]
    exact Nat.and_two_pow_sub_one_eq_mod word.toNat 4
  have alone : (word &&& 0xF).setWidth 8 = BitVec.ofNat 8 digit.val := by
    apply BitVec.eq_of_toNat_eq
    rw [BitVec.toNat_setWidth, BitVec.toNat_ofNat, masked, lastDigit]
  have doubled : Number.Word.times (BitVec.ofNat 8 digit.val) 17 =
      .ok (BitVec.ofNat 8 (digit.val * 17)) :=
    Number.Word.times_ofNat (by omega) (by decide) (show digit.val * 17 < 2 ^ 8 by omega)
  have sameStrength : ofByte (BitVec.ofNat 8 (digit.val * 17)) = ofDigits digit digit := by
    apply Fin.ext
    change (BitVec.ofNat 8 (digit.val * 17)).toNat = 16 * digit.val + digit.val
    rw [BitVec.toNat_ofNat]
    omega
  rw [ofLastDigit, alone, doubled, Outcome.ok_bind, sameStrength, Outcome.pure_eq_ok]

end Channel

namespace Rgb

theorem ofWord_of_digits {word : BitVec 32} {a b c d e f : Fin 16}
    (value : word.toNat = Number.numeral 0 [a, b, c, d, e, f]) :
    ofWord word = ⟨Channel.ofDigits a b, Channel.ofDigits c d, Channel.ofDigits e f⟩ := by
  simp only [Number.numeral_cons, Number.numeral_nil] at value
  have red : Channel.ofByte ((word >>> 16).setWidth 8) = Channel.ofDigits a b := by
    apply Channel.ofByte_setWidth
    rw [BitVec.toNat_ushiftRight, Nat.shiftRight_eq_div_pow]
    omega
  have green : Channel.ofByte ((word >>> 8).setWidth 8) = Channel.ofDigits c d := by
    apply Channel.ofByte_setWidth
    rw [BitVec.toNat_ushiftRight, Nat.shiftRight_eq_div_pow]
    omega
  have blue : Channel.ofByte (word.setWidth 8) = Channel.ofDigits e f := by
    apply Channel.ofByte_setWidth
    omega
  rw [ofWord, red, green, blue]

theorem ofShortWord_of_digits {word : BitVec 16} {a b c : Fin 16}
    (value : word.toNat = Number.numeral 0 [a, b, c]) :
    ofShortWord word =
      .ok ⟨Channel.ofDigits a a, Channel.ofDigits b b, Channel.ofDigits c c⟩ := by
  simp only [Number.numeral_cons, Number.numeral_nil] at value
  have red : Channel.ofLastDigit (word >>> 8) = .ok (Channel.ofDigits a a) := by
    apply Channel.ofLastDigit_eq_ok
    rw [BitVec.toNat_ushiftRight, Nat.shiftRight_eq_div_pow]
    omega
  have green : Channel.ofLastDigit (word >>> 4) = .ok (Channel.ofDigits b b) := by
    apply Channel.ofLastDigit_eq_ok
    rw [BitVec.toNat_ushiftRight, Nat.shiftRight_eq_div_pow]
    omega
  have blue : Channel.ofLastDigit word = .ok (Channel.ofDigits c c) := by
    apply Channel.ofLastDigit_eq_ok
    omega
  simp only [ofShortWord, red, green, blue, Outcome.ok_bind, Outcome.pure_eq_ok]

section Digits

variable {bytes : List UInt8} {digits : List (Fin 16)}
  (areDigits : bytes.map Number.hexByteValue? = digits.map some)

include areDigits

theorem exists_word_of_six (six : digits.length = 6) :
    ∃ word, Number.Word.ofHex 32 bytes = .ok word ∧ ofDigits? digits = some (ofWord word) := by
  rcases Number.Word.exists_ofHex_of_fits 32 (by decide) areDigits (by omega) (by omega)
    with ⟨word, isWord, value⟩
  refine ⟨word, isWord, ?_⟩
  match digits, six with
  | [a, b, c, d, e, f], _ => rw [ofWord_of_digits value, ofDigits?]

theorem exists_word_of_three (three : digits.length = 3) :
    ∃ word color, Number.Word.ofHex 16 bytes = .ok word ∧ ofShortWord word = .ok color ∧
      ofDigits? digits = some color := by
  rcases Number.Word.exists_ofHex_of_fits 16 (by decide) areDigits (by omega) (by omega)
    with ⟨word, isWord, value⟩
  match digits, three with
  | [a, b, c], _ => exact ⟨word, _, isWord, ofShortWord_of_digits value, rfl⟩

theorem ofBytes_of_digits : ofBytes bytes = .ok (ofDigits? digits) := by
  unfold ofBytes
  rw [Number.length_of_map_hexByteValue? areDigits]
  split
  next six =>
    rcases exists_word_of_six areDigits six with ⟨word, isWord, isColor⟩
    rw [isWord, Outcome.ok_bind, Outcome.pure_eq_ok, isColor]
  next three =>
    rcases exists_word_of_three areDigits three with ⟨word, color, isWord, isDoubled, isColor⟩
    rw [isWord, Outcome.ok_bind, isDoubled, Outcome.ok_bind, Outcome.pure_eq_ok, isColor]
  next notSix notThree =>
    unfold ofDigits?
    split
    next => exact absurd rfl notSix
    next => exact absurd rfl notThree
    next => rfl

end Digits

/-! ## Texts read -/

theorem exists_digits_of_digitBytes? {text : String} {bytes : List UInt8}
    (areBytes : digitBytes? text = some bytes) :
    ∃ digits, (digitsOf (Text.trimChars text.toList)).mapM Number.hexValue? = some digits ∧
      bytes.map Number.hexByteValue? = digits.map some := by
  simp only [digitBytes?, Number.all_isHexByte_bytes, Option.ite_none_right_eq_some,
    Option.some.injEq] at areBytes
  rcases areBytes with ⟨areDigits, rfl⟩
  rcases Option.isSome_iff_exists.mp areDigits with ⟨digits, areDigits⟩
  exact ⟨digits, areDigits, Number.map_hexByteValue?_bytes areDigits⟩

theorem mapM_hexValue?_of_digitBytes? {text : String} (noBytes : digitBytes? text = none) :
    (digitsOf (Text.trimChars text.toList)).mapM Number.hexValue? = none := by
  simpa [digitBytes?, Number.all_isHexByte_bytes] using noBytes

theorem read_eq (text : String) :
    read text =
      .ok (((digitsOf (Text.trimChars text.toList)).mapM Number.hexValue?).bind ofDigits?) := by
  unfold read
  split
  next bytes areBytes =>
    rcases exists_digits_of_digitBytes? areBytes with ⟨digits, areDigits, areValues⟩
    rw [areDigits, ofBytes_of_digits areValues, Option.bind_some]
  next noBytes => rw [mapM_hexValue?_of_digitBytes? noBytes, Option.bind_none]

theorem parse?_eq (text : String) :
    parse? text =
      ((digitsOf (Text.trimChars text.toList)).mapM Number.hexValue?).bind ofDigits? := by
  rw [parse?, read_eq]

end Rgb

end Bulletin
