import Bulletin.Proofs.Color.Spelling
import Mathlib.Data.List.Forall2
/-!
# The grammar of colors

A text names a color exactly where, blanks around it aside, it is six or three hexadecimal digits
behind at most one mark. Every two of six digits are a channel, and so is each of three, as if it
were written twice. Digits that are put together always make a word, and all of its channels fit.
-/

namespace Bulletin

/-! ## Digits -/

namespace Number

/-- The sixteen digits in the order of their values, in lowercase and in uppercase. -/
def hexAlphabets : List String :=
  ["0123456789abcdef", "0123456789ABCDEF"]

/-- A character that stands at the place of its value among the sixteen digits. -/
def IsHexDigit (c : Char) (value : Fin 16) : Prop :=
  ∃ alphabet ∈ hexAlphabets, alphabet.toList[value.val]? = some c

instance (c : Char) (value : Fin 16) : Decidable (IsHexDigit c value) :=
  inferInstanceAs (Decidable (∃ alphabet ∈ hexAlphabets, alphabet.toList[value.val]? = some c))

theorem isHexDigit_iff {c : Char} {value : Fin 16} :
    IsHexDigit c value ↔ hexValue? c = some value := by
  constructor
  · rintro ⟨alphabet, isAlphabet, place⟩
    have valued : ∀ alphabet ∈ hexAlphabets, ∀ value : Fin 16,
        (alphabet.toList[value.val]?).bind hexValue? = some value := by decide +kernel
    have here := valued alphabet isAlphabet value
    rwa [place, Option.bind_some] at here
  · intro isDigit
    exact Text.of_ascii
      (P := fun c => ∀ value, hexValue? c = some value → IsHexDigit c value)
      (by decide +kernel) (lt_of_hexValue? isDigit) value isDigit

theorem isSome_hexValue?_iff {c : Char} :
    (hexValue? c).isSome = true ↔ ∃ value, IsHexDigit c value := by
  rw [Option.isSome_iff_exists]
  exact exists_congr fun value => isHexDigit_iff.symm

theorem forall₂_isHexDigit_iff {chars : List Char} {values : List (Fin 16)} :
    List.Forall₂ IsHexDigit chars values ↔ chars.mapM hexValue? = some values := by
  induction chars generalizing values with
  | nil => cases values <;> simp
  | cons c rest induction =>
      rw [List.mapM_cons]
      cases values with
      | nil => simp [Option.bind_eq_some_iff]
      | cons value values => simp [Option.bind_eq_some_iff, isHexDigit_iff, induction]

theorem length_of_mapM_hexValue? {chars : List Char} {values : List (Fin 16)}
    (read : chars.mapM hexValue? = some values) : chars.length = values.length :=
  (forall₂_isHexDigit_iff.mpr read).length_eq

end Number

/-! ## Spellings -/

namespace Rgb

/-- A text that consists of six digits, or three, behind a mark that may be missing. -/
structure IsSpelling (text mark : String) (digits : List Char) : Prop where
  atMostOneMark : mark = "" ∨ mark = "#"
  areDigits : ∀ c ∈ digits, ∃ value, Number.IsHexDigit c value
  sixOrThree : digits.length = 6 ∨ digits.length = 3
  whole : text = mark ++ String.ofList digits

theorem IsSpelling.areRead {text mark : String} {digits : List Char}
    (spelled : IsSpelling text mark digits) :
    ∀ c ∈ digits, (Number.hexValue? c).isSome = true :=
  fun c member => Number.isSome_hexValue?_iff.mpr (spelled.areDigits c member)

theorem isSome_ofDigits? {values : List (Fin 16)} :
    (ofDigits? values).isSome = true ↔ values.length = 6 ∨ values.length = 3 := by
  constructor
  · intro isColor
    unfold ofDigits? at isColor
    split at isColor
    next => exact .inl rfl
    next => exact .inr rfl
    next => cases isColor
  · rintro (six | three)
    · match values, six with
      | [a, b, c, d, e, f], _ => rfl
    · match values, three with
      | [a, b, c], _ => rfl

theorem mark_append_ofList (chars : List Char) :
    "#" ++ String.ofList chars = String.ofList ('#' :: chars) := by
  rw [String.ofList_cons]
  rfl

theorem parse?_of_mark {mark : String} (atMostOne : mark = "" ∨ mark = "#") {digits : List Char}
    (areDigits : ∀ c ∈ digits, (Number.hexValue? c).isSome = true) :
    parse? (mark ++ String.ofList digits) =
      (digits.mapM Number.hexValue?).bind ofDigits? := by
  rcases atMostOne with rfl | rfl
  · rw [String.empty_append, parse?_of_digits areDigits]
  · rw [mark_append_ofList, parse?_of_marked areDigits]

theorem parse?_of_isSpelling {text mark : String} {digits : List Char}
    (spelled : IsSpelling (Text.trim text) mark digits) :
    parse? text = (digits.mapM Number.hexValue?).bind ofDigits? := by
  rw [(Color.SameSpelling.trimmed text).parse?_eq, spelled.whole,
    parse?_of_mark spelled.atMostOneMark spelled.areRead]

theorem isSome_parse?_of_isSpelling {text mark : String} {digits : List Char}
    (spelled : IsSpelling (Text.trim text) mark digits) : (parse? text).isSome = true := by
  have areRead : (digits.mapM Number.hexValue?).isSome = true := by
    rw [Number.isSome_mapM_hexValue?, List.all_eq_true]
    exact spelled.areRead
  rcases Option.isSome_iff_exists.mp areRead with ⟨values, read⟩
  rw [parse?_of_isSpelling spelled, read, Option.bind_some, isSome_ofDigits?,
    ← Number.length_of_mapM_hexValue? read]
  exact spelled.sixOrThree

theorem exists_mark (chars : List Char) :
    ∃ mark, (mark = "" ∨ mark = "#") ∧
      String.ofList chars = mark ++ String.ofList (digitsOf chars) := by
  unfold digitsOf
  split
  next rest => exact ⟨"#", .inr rfl, (mark_append_ofList rest).symm⟩
  next => exact ⟨"", .inl rfl, String.empty_append.symm⟩

theorem exists_isSpelling {text : String} (isColor : (parse? text).isSome = true) :
    ∃ mark digits, IsSpelling (Text.trim text) mark digits := by
  rcases Option.isSome_iff_exists.mp isColor with ⟨color, isColor⟩
  rw [parse?_eq] at isColor
  rcases Option.bind_eq_some_iff.mp isColor with ⟨values, read, ofValues⟩
  rcases exists_mark (Text.trimChars text.toList) with ⟨mark, atMostOneMark, whole⟩
  refine ⟨mark, digitsOf (Text.trimChars text.toList), atMostOneMark, ?_, ?_, whole⟩
  · exact fun c member =>
      Number.isSome_hexValue?_iff.mp (Number.isSome_hexValue?_of_mapM read c member)
  · rw [Number.length_of_mapM_hexValue? read, ← isSome_ofDigits?, ofValues, Option.isSome_some]

theorem parse?_of_three {text mark : String} {digits : List Char}
    (spelled : IsSpelling (Text.trim text) mark digits) (three : digits.length = 3) :
    parse? text = parse? (mark ++ String.ofList (digits.flatMap fun c => [c, c])) := by
  have areReadTwice : ∀ c ∈ digits.flatMap fun c => [c, c],
      (Number.hexValue? c).isSome = true := by
    intro c member
    rcases List.mem_flatMap.mp member with ⟨digit, isDigit, same⟩
    have sameDigit : c = digit := by simpa using same
    exact sameDigit ▸ spelled.areRead digit isDigit
  have areRead := spelled.areRead
  rw [parse?_of_isSpelling spelled, parse?_of_mark spelled.atMostOneMark areReadTwice,
    ← parse?_of_digits areRead, ← parse?_of_digits areReadTwice]
  match digits, three with
  | [first, second, third], _ => exact parse?_of_doubled areRead

theorem exists_word_of_digitBytes? {text : String} {bytes : List UInt8}
    (areBytes : digitBytes? text = some bytes) :
    (bytes.length = 6 → ∃ word, Number.Word.ofHex 32 bytes = .ok word) ∧
    (bytes.length = 3 →
      ∃ word color, Number.Word.ofHex 16 bytes = .ok word ∧ ofShortWord word = .ok color) := by
  rcases exists_digits_of_digitBytes? areBytes with ⟨digits, -, areDigits⟩
  have sameCount := Number.length_of_map_hexByteValue? areDigits
  constructor
  · intro six
    rcases exists_word_of_six areDigits (sameCount ▸ six) with ⟨word, isWord, -⟩
    exact ⟨word, isWord⟩
  · intro three
    rcases exists_word_of_three areDigits (sameCount ▸ three)
      with ⟨word, color, isWord, isDoubled, -⟩
    exact ⟨word, color, isWord, isDoubled⟩

/-! ## What is read -/

/-- A text names a color exactly where it is a spelling, blanks around it aside. Of six digits,
every two are a channel; three are read as the six in which each stands twice. No text is read with
a fault: where digits have come so far that they are put together, they make a word, and the digits
of a short word can be doubled. -/
theorem spellings_exact (text : String) :
    ((parse? text).isSome = true ↔
      ∃ mark digits, IsSpelling (Text.trim text) mark digits) ∧
    (∀ mark digits, IsSpelling (Text.trim text) mark digits →
      (∀ a b c d e f, List.Forall₂ Number.IsHexDigit digits [a, b, c, d, e, f] →
        ∃ color, parse? text = some color ∧ color.red.val = 16 * a.val + b.val ∧
          color.green.val = 16 * c.val + d.val ∧ color.blue.val = 16 * e.val + f.val) ∧
      (digits.length = 3 →
        parse? text = parse? (mark ++ String.ofList (digits.flatMap fun c => [c, c])))) ∧
    read text = .ok (parse? text) ∧
    ∀ bytes, digitBytes? text = some bytes →
      (bytes.length = 6 → ∃ word, Number.Word.ofHex 32 bytes = .ok word) ∧
      (bytes.length = 3 →
        ∃ word color, Number.Word.ofHex 16 bytes = .ok word ∧ ofShortWord word = .ok color) := by
  refine ⟨⟨exists_isSpelling, ?_⟩, ?_, ?_, ?_⟩
  · rintro ⟨mark, digits, spelled⟩
    exact isSome_parse?_of_isSpelling spelled
  · intro mark digits spelled
    refine ⟨fun a b c d e f areDigits => ?_, parse?_of_three spelled⟩
    rw [parse?_of_isSpelling spelled, Number.forall₂_isHexDigit_iff.mp areDigits, Option.bind_some]
    exact ⟨_, rfl, rfl, rfl, rfl⟩
  · rw [parse?_eq, read_eq]
  · exact fun bytes areBytes => exists_word_of_digitBytes? areBytes

theorem spellings_exact_amber :
    IsSpelling (Text.trim "\u3000#fA0 ") "#" ['f', 'A', '0'] ∧
      parse? "\u3000#fA0 " = parse? "#ffAA00" ∧
      digitBytes? "\u3000#fA0 " = some [0x66, 0x41, 0x30] ∧
      (∃ word color, Number.Word.ofHex 16 [0x66, 0x41, 0x30] = .ok word ∧
        ofShortWord word = .ok color) ∧
      (∃ color, parse? "1e32A7" = some color ∧
        color.red.val = 30 ∧ color.green.val = 50 ∧ color.blue.val = 167) ∧
      digitBytes? "1e32A7" = some [0x31, 0x65, 0x33, 0x32, 0x41, 0x37] ∧
      (∃ word, Number.Word.ofHex 32 [0x31, 0x65, 0x33, 0x32, 0x41, 0x37] = .ok word) ∧
      ∀ text ∈ ["", "#", "##fA0", "+fA0b1", "€", "fA0b1", "\uff11\uff12"],
        ¬ ∃ mark digits, IsSpelling (Text.trim text) mark digits := by
  have areDigits (digits : List Char)
      (areRead : (digits.all fun c => (Number.hexValue? c).isSome) = true) :
      ∀ c ∈ digits, ∃ value, Number.IsHexDigit c value :=
    fun c member => Number.isSome_hexValue?_iff.mp (List.all_eq_true.mp areRead c member)
  have short : IsSpelling (Text.trim "\u3000#fA0 ") "#" ['f', 'A', '0'] :=
    ⟨.inr rfl, areDigits _ (by decide), .inr rfl, by decide +kernel⟩
  have long : IsSpelling (Text.trim "1e32A7") "" ['1', 'e', '3', '2', 'A', '7'] :=
    ⟨.inl rfl, areDigits _ (by decide), .inl rfl, by decide +kernel⟩
  have longDigits : List.Forall₂ Number.IsHexDigit ['1', 'e', '3', '2', 'A', '7']
      [1, 14, 3, 2, 10, 7] := Number.forall₂_isHexDigit_iff.mpr (by decide +kernel)
  have shortBytes : digitBytes? "\u3000#fA0 " = some [0x66, 0x41, 0x30] := by decide +kernel
  have longBytes : digitBytes? "1e32A7" = some [0x31, 0x65, 0x33, 0x32, 0x41, 0x37] := by
    decide +kernel
  rcases spellings_exact "\u3000#fA0 " with ⟨-, shortRead, -, shortWords⟩
  rcases spellings_exact "1e32A7" with ⟨-, longRead, -, longWords⟩
  have doubled : parse? "\u3000#fA0 " = parse? "#ffAA00" := (shortRead _ _ short).2 rfl
  refine ⟨short, doubled, shortBytes, (shortWords _ shortBytes).2 rfl,
    (longRead _ _ long).1 _ _ _ _ _ _ longDigits, longBytes, (longWords _ longBytes).1 rfl, ?_⟩
  have others : ∀ text ∈ ["", "#", "##fA0", "+fA0b1", "€", "fA0b1", "\uff11\uff12"],
      ¬ (parse? text).isSome = true := by decide +kernel
  intro text member spelled
  exact others text member ((spellings_exact text).1.mpr spelled)

end Rgb

end Bulletin
