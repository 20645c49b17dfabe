import Bulletin.Proofs.Color.Reading
import Bulletin.Proofs.Text.Blank
import Mathlib.Logic.Relation
/-!
# Spellings of colors

A color can be spelled in many ways, which differ in the case of letters, in the mark before the
digits, in how often each digit is written, and in blanks. All these are spellings of one color, and
there are no others.
-/

namespace Bulletin

/-! ## Marks and blanks -/

theorem Text.isBlank_toLower (c : Char) : isBlank c.toLower = isBlank c :=
  apply_toLower (by decide +kernel) c

namespace Number

theorem isBlank_of_hexValue? {c : Char} (isDigit : (hexValue? c).isSome = true) :
    Text.isBlank c = false := by
  have noBlank : ∀ digit : Fin 16, Text.isBlank (Nat.digitChar digit) = false := by decide +kernel
  rcases Option.isSome_iff_exists.mp isDigit with ⟨digit, isDigit⟩
  rw [← Text.isBlank_toLower, hexValue?_eq_some.mp isDigit, noBlank]

theorem isSome_hexValue?_of_mapM {digits : List Char} {values : List (Fin 16)}
    (read : digits.mapM hexValue? = some values) :
    ∀ c ∈ digits, (hexValue? c).isSome = true := by
  apply List.all_eq_true.mp
  rw [← isSome_mapM_hexValue?, read, Option.isSome_some]

theorem hexDigits_ofDigits (high low : Fin 16) :
    hexDigits 2 (Channel.ofDigits high low).val = [Nat.digitChar high, Nat.digitChar low] := by
  revert high low
  decide

end Number

namespace Rgb

theorem digitsOf_map_toLower (chars : List Char) :
    digitsOf (chars.map Char.toLower) = (digitsOf chars).map Char.toLower := by
  cases chars with
  | nil => rfl
  | cons c rest =>
      have sameMark : decide (c.toLower = '#') = decide (c = '#') :=
        @Text.apply_toLower Bool (fun c => decide (c = '#')) (by decide +kernel) c
      by_cases mark : c = '#'
      · subst mark
        rfl
      · have noMark : c.toLower ≠ '#' := by simpa [mark] using sameMark
        simp [digitsOf, mark, noMark]

/-! ## Spellings read -/

theorem parse?_of_inCase {text other : String}
    (same : text.toList.map Char.toLower = other.toList.map Char.toLower) :
    parse? text = parse? other := by
  have lowered (text : String) : parse? text =
      ((digitsOf (Text.trimChars (text.toList.map Char.toLower))).mapM Number.hexValue?).bind
        ofDigits? := by
    have unseen : Number.hexValue? ∘ Char.toLower = Number.hexValue? :=
      funext Number.hexValue?_toLower
    rw [Text.trimChars_map Text.isBlank_toLower, digitsOf_map_toLower, List.mapM_map, unseen,
      parse?_eq]
  rw [lowered, lowered, same]

theorem parse?_of_padded {before after : String} (blankBefore : Text.isAllBlank before = true)
    (blankAfter : Text.isAllBlank after = true) (text : String) :
    parse? (before ++ text ++ after) = parse? text := by
  have trimmed := Text.trimChars_padded (List.all_eq_true.mp blankBefore)
    (List.all_eq_true.mp blankAfter) text.toList
  rw [parse?_eq, String.toList_append, String.toList_append, trimmed, parse?_eq]

section Digits

variable {digits : List Char} (areDigits : ∀ c ∈ digits, (Number.hexValue? c).isSome = true)

include areDigits

theorem parse?_of_digits :
    parse? (String.ofList digits) = (digits.mapM Number.hexValue?).bind ofDigits? := by
  have noBlanks : ∀ c ∈ digits, Text.isBlank c = false :=
    fun c member => Number.isBlank_of_hexValue? (areDigits c member)
  have noMark : digitsOf digits = digits := by
    unfold digitsOf
    split
    next => exact absurd (areDigits '#' List.mem_cons_self) (by decide)
    next => rfl
  rw [parse?_eq, String.toList_ofList, Text.trimChars_eq_self noBlanks, noMark]

theorem parse?_of_marked :
    parse? (String.ofList ('#' :: digits)) = (digits.mapM Number.hexValue?).bind ofDigits? := by
  have noBlanks : ∀ c ∈ '#' :: digits, Text.isBlank c = false :=
    List.forall_mem_cons.mpr ⟨by decide +kernel,
      fun c member => Number.isBlank_of_hexValue? (areDigits c member)⟩
  rw [parse?_eq, String.toList_ofList, Text.trimChars_eq_self noBlanks, digitsOf]

end Digits

theorem parse?_of_doubled {first second third : Char}
    (areDigits : ∀ c ∈ [first, second, third], (Number.hexValue? c).isSome = true) :
    parse? (String.ofList [first, second, third]) =
      parse? (String.ofList [first, first, second, second, third, third]) := by
  have areDoubled : ∀ c ∈ [first, first, second, second, third, third],
      (Number.hexValue? c).isSome = true := by
    simpa using areDigits
  rw [parse?_of_digits areDigits, parse?_of_digits areDoubled]
  simp only [List.forall_mem_cons, Option.isSome_iff_exists] at areDigits
  rcases areDigits with ⟨⟨a, isFirst⟩, ⟨b, isSecond⟩, ⟨c, isThird⟩, -⟩
  simp [isFirst, isSecond, isThird, ofDigits?]

theorem spelling_ofDigits (a b c d e f : Fin 16) :
    spelling ⟨Channel.ofDigits a b, Channel.ofDigits c d, Channel.ofDigits e f⟩ =
      String.ofList ('#' :: [a, b, c, d, e, f].map fun digit => Nat.digitChar digit.val) := by
  simp [spelling, Number.hexDigits_ofDigits]

theorem parse?_spelling (color : Rgb) : parse? color.spelling = some color := by
  have digitsOfChannel (channel : Channel) : ∃ high low, channel = Channel.ofDigits high low := by
    refine ⟨⟨channel.val / 16, by omega⟩, ⟨channel.val % 16, by omega⟩, Fin.ext ?_⟩
    simp only [Channel.ofDigits]
    omega
  rcases color with ⟨red, green, blue⟩
  rcases digitsOfChannel red with ⟨a, b, rfl⟩
  rcases digitsOfChannel green with ⟨c, d, rfl⟩
  rcases digitsOfChannel blue with ⟨e, f, rfl⟩
  have read : ([a, b, c, d, e, f].map fun digit => Nat.digitChar digit.val).mapM
      Number.hexValue? = some [a, b, c, d, e, f] := by
    simp [Number.hexValue?_digitChar]
  rw [spelling_ofDigits, parse?_of_marked (Number.isSome_hexValue?_of_mapM read), read]
  rfl

end Rgb

/-! ## Ways to spell a color -/

namespace Color

/-- A text and another way to write it: with letters of another case, with a mark, with each of
three digits written twice, or with blanks around it. -/
inductive Respelled : String → String → Prop where
  | inCase {text other : String}
      (same : text.toList.map Char.toLower = other.toList.map Char.toLower) : Respelled text other
  | marked {digits : List Char}
      (areDigits : ∀ c ∈ digits, (Number.hexValue? c).isSome = true) :
      Respelled (String.ofList digits) (String.ofList ('#' :: digits))
  | doubled {first second third : Char}
      (areDigits : ∀ c ∈ [first, second, third], (Number.hexValue? c).isSome = true) :
      Respelled (String.ofList [first, second, third])
        (String.ofList [first, first, second, second, third, third])
  | padded {before after : String} (blankBefore : Text.isAllBlank before = true)
      (blankAfter : Text.isAllBlank after = true) (text : String) :
      Respelled text (before ++ text ++ after)

def SameSpelling : String → String → Prop :=
  Relation.EqvGen Respelled

variable {text other : String}

theorem Respelled.parse?_eq (respelled : Respelled text other) :
    Rgb.parse? text = Rgb.parse? other := by
  cases respelled with
  | inCase same => exact Rgb.parse?_of_inCase same
  | marked areDigits =>
      exact (Rgb.parse?_of_digits areDigits).trans (Rgb.parse?_of_marked areDigits).symm
  | doubled areDigits => exact Rgb.parse?_of_doubled areDigits
  | padded blankBefore blankAfter =>
      exact (Rgb.parse?_of_padded blankBefore blankAfter text).symm

theorem Respelled.sameSpelling (respelled : Respelled text other) : SameSpelling text other :=
  .rel _ _ respelled

namespace SameSpelling

theorem symm (same : SameSpelling text other) : SameSpelling other text :=
  Relation.EqvGen.symm _ _ same

theorem trans {first second third : String} (early : SameSpelling first second)
    (late : SameSpelling second third) : SameSpelling first third :=
  Relation.EqvGen.trans _ _ _ early late

theorem parse?_eq (same : SameSpelling text other) : Rgb.parse? text = Rgb.parse? other := by
  induction same with
  | rel _ _ respelled => exact respelled.parse?_eq
  | refl _ => rfl
  | symm _ _ _ induction => exact induction.symm
  | trans _ _ _ _ _ early late => exact early.trans late

theorem trimmed (text : String) : SameSpelling text (Text.trim text) := by
  rcases Text.exists_padding text.toList with ⟨before, after, blankBefore, blankAfter, padded⟩
  have whole : String.ofList before ++ Text.trim text ++ String.ofList after = text := by
    apply String.toList_inj.mp
    simp only [String.toList_append, Text.trim, String.toList_ofList]
    exact padded.symm
  have respelled : Respelled (Text.trim text)
      (String.ofList before ++ Text.trim text ++ String.ofList after) :=
    .padded (by simpa [Text.isAllBlank] using blankBefore)
      (by simpa [Text.isAllBlank] using blankAfter) (Text.trim text)
  rw [whole] at respelled
  exact respelled.sameSpelling.symm

theorem unmarked {chars : List Char}
    (areDigits : ∀ c ∈ Rgb.digitsOf chars, (Number.hexValue? c).isSome = true) :
    SameSpelling (String.ofList chars) (String.ofList (Rgb.digitsOf chars)) := by
  unfold Rgb.digitsOf at areDigits ⊢
  split
  next => exact (Respelled.marked areDigits).sameSpelling.symm
  next => exact .refl _

theorem ofDigits {values : List (Fin 16)} {color : Rgb}
    (isColor : Rgb.ofDigits? values = some color) :
    SameSpelling (String.ofList (values.map fun value => Nat.digitChar value.val))
      color.spelling := by
  have areDigits (values : List (Fin 16)) :
      ∀ c ∈ values.map fun value => Nat.digitChar value.val,
        (Number.hexValue? c).isSome = true := by
    simp [Number.hexValue?_digitChar]
  unfold Rgb.ofDigits? at isColor
  split at isColor
  next a b c d e f =>
    cases isColor
    rw [Rgb.spelling_ofDigits]
    exact (Respelled.marked (areDigits [a, b, c, d, e, f])).sameSpelling
  next a b c =>
    cases isColor
    rw [Rgb.spelling_ofDigits]
    exact (Respelled.doubled (areDigits [a, b, c])).sameSpelling.trans
      (Respelled.marked (areDigits [a, a, b, b, c, c])).sameSpelling
  next => cases isColor

theorem spelling {color : Rgb} (isColor : Rgb.parse? text = some color) :
    SameSpelling text color.spelling := by
  rw [Rgb.parse?_eq] at isColor
  rcases Option.bind_eq_some_iff.mp isColor with ⟨values, read, ofValues⟩
  have noMark : SameSpelling (Text.trim text)
      (String.ofList (Rgb.digitsOf (Text.trimChars text.toList))) :=
    unmarked (Number.isSome_hexValue?_of_mapM read)
  have lowercase : ∀ value : Fin 16,
      (Nat.digitChar value).toLower = Nat.digitChar value := by decide
  have lowered : Respelled (String.ofList (Rgb.digitsOf (Text.trimChars text.toList)))
      (String.ofList (values.map fun value => Nat.digitChar value.val)) := by
    apply Respelled.inCase
    rw [String.toList_ofList, String.toList_ofList, Number.mapM_hexValue?_eq_some.mp read,
      List.map_map]
    exact List.map_congr_left fun value _ => (lowercase value).symm
  exact (trimmed text).trans (noMark.trans (lowered.sameSpelling.trans (ofDigits ofValues)))

end SameSpelling

/-- The spellings of a color are all that one of them can be turned into. -/
theorem sameSpelling_iff {color : Rgb} (isColor : Rgb.parse? text = some color) :
    SameSpelling text other ↔ Rgb.parse? other = some color := by
  constructor
  · intro same
    exact same.parse?_eq.symm.trans isColor
  · intro isOther
    exact (SameSpelling.spelling isColor).trans (SameSpelling.spelling isOther).symm

end Color

end Bulletin
