import Bulletin.Proofs.Number.Digits
import Bulletin.Proofs.Text.Blank
import Bulletin.Time.Timestamp
import Mathlib.Data.List.TakeDrop
import Mathlib.Data.List.TakeWhile
/-!
# Timestamps written and read again

The reader knows the written form of every moment whose year has four digits. The year of any
other moment is written with a sign, and the text is then no time at all to the reader.
-/

namespace Bulletin

namespace Timestamp

/-- A time of day, to the nanosecond, that may be a leap second. -/
structure IsValid (moment : Timestamp) : Prop where
  hour_lt : moment.hour < 24
  minute_lt : moment.minute < 60
  second_le : moment.second ≤ 60
  nanosecond_lt : moment.nanosecond < Nat.pow 10 9

/-- The year is written with four digits and no sign. -/
def HasPlainYear (moment : Timestamp) : Prop :=
  0 ≤ moment.date.year ∧ moment.date.year ≤ 9999

instance (moment : Timestamp) : Decidable moment.HasPlainYear :=
  inferInstanceAs (Decidable (_ ∧ _))

/-! ## Digits of a fixed number -/

theorem digits?_append {digits : List Char} (allDigits : ∀ c ∈ digits, c.isDigit = true)
    (rest : List Char) :
    digits? digits.length (digits ++ rest) = some (Number.digitsValue digits, rest) := by
  have all : digits.all Char.isDigit = true := List.all_eq_true.mpr allDigits
  rw [digits?, List.take_left, List.drop_left]
  simp only [all, and_self, if_true]

section Padded

variable {width value : Nat}

theorem isDigit_of_mem_padded {c : Char} (member : c ∈ padded width value) :
    c.isDigit = true := by
  rcases List.mem_append.mp member with zero | digit
  · rw [List.eq_of_mem_replicate zero]
    rfl
  · exact Number.isDigit_of_mem_digitChars digit

theorem padded_ne_nil : padded width value ≠ [] :=
  List.append_ne_nil_of_right_ne_nil _ (Number.digitChars_ne_nil value)

@[simp] theorem digitsValue_padded : Number.digitsValue (padded width value) = value := by
  rw [padded, Number.digitsValue_replicate_append, Number.digitsValue_digitChars]

theorem length_padded (positive : 0 < width) (small : value < Nat.pow 10 width) :
    (padded width value).length = width := by
  have short := (Nat.length_toDigits_le_iff (by decide : 1 < 10) positive).mpr small
  rw [padded, List.length_append, List.length_replicate]
  exact Nat.sub_add_cancel short

theorem takeWhile_padded_append {mark : Char} (notDigit : mark.isDigit = false)
    (rest : List Char) :
    (padded width value ++ mark :: rest).takeWhile Char.isDigit = padded width value := by
  rw [List.takeWhile_append_of_pos fun _ => isDigit_of_mem_padded,
    List.takeWhile_cons_of_neg (by simp [notDigit]), List.append_nil]

theorem digits?_padded_append (positive : 0 < width) (small : value < Nat.pow 10 width)
    (rest : List Char) : digits? width (padded width value ++ rest) = some (value, rest) := by
  have allDigits : ∀ c ∈ padded width value, c.isDigit = true := fun _ => isDigit_of_mem_padded
  have found := digits?_append allDigits rest
  rw [length_padded positive small, digitsValue_padded] at found
  exact found

end Padded

@[simp] theorem past?_cons (mark : Char) (rest : List Char) :
    past? mark (mark :: rest) = some rest :=
  if_pos rfl

/-! ## A moment of a plain year -/

theorem fraction?_digits {digits : List Char} (rest : List Char)
    (allDigits : ∀ c ∈ digits, c.isDigit = true) (nonempty : digits ≠ [])
    (short : digits.length ≤ 9) :
    fraction? ('.' :: digits ++ 'Z' :: rest) =
      some (Number.digitsValue digits * Nat.pow 10 (9 - digits.length), 'Z' :: rest) := by
  have spans : (digits ++ 'Z' :: rest).span Char.isDigit = (digits, 'Z' :: rest) := by
    rw [List.span_eq_takeWhile_dropWhile, List.takeWhile_append_of_pos allDigits,
      List.dropWhile_append_of_pos allDigits]
    simp
  have isEmpty : digits.isEmpty = false := by simpa using nonempty
  have whole : digits.take 9 = digits := List.take_of_length_le short
  simp only [List.cons_append, fraction?, spans, isEmpty, whole, Bool.false_eq_true, if_false]

theorem fraction?_padded {width value : Nat} (positive : 0 < width) (short : width ≤ 9)
    (small : value < Nat.pow 10 width) (rest : List Char) :
    fraction? ('.' :: padded width value ++ 'Z' :: rest) =
      some (value * Nat.pow 10 (9 - width), 'Z' :: rest) := by
  have length := length_padded positive small
  have found := fraction?_digits rest (fun _ => isDigit_of_mem_padded) padded_ne_nil
    (Nat.le_trans (Nat.le_of_eq length) short)
  rw [length, digitsValue_padded] at found
  exact found

theorem fraction?_fractionText {nanosecond : Nat} (lt : nanosecond < Nat.pow 10 9)
    (rest : List Char) :
    fraction? (fractionText nanosecond ++ 'Z' :: rest) = some (nanosecond, 'Z' :: rest) := by
  have bound : nanosecond < 1000000000 := lt
  unfold fractionText
  split
  · rename_i zero
    rw [zero]
    rfl
  · split
    · have small : nanosecond / 1000000 < 1000 := by omega
      have scaled : nanosecond / 1000000 * 1000000 = nanosecond := by omega
      rw [fraction?_padded (by decide) (by decide) small]
      exact congrArg (fun value => some (value, 'Z' :: rest)) scaled
    · split
      · have small : nanosecond / 1000 < 1000000 := by omega
        have scaled : nanosecond / 1000 * 1000 = nanosecond := by omega
        rw [fraction?_padded (by decide) (by decide) small]
        exact congrArg (fun value => some (value, 'Z' :: rest)) scaled
      · have scaled : nanosecond * 1 = nanosecond := Nat.mul_one nanosecond
        rw [fraction?_padded (by decide) (by decide) lt]
        exact congrArg (fun value => some (value, 'Z' :: rest)) scaled

theorem toUniversal_zero {moment : Timestamp} (valid : moment.IsValid) :
    moment.toUniversal 0 = moment := by
  have hour := valid.hour_lt
  have minute := valid.minute_lt
  have notBefore : ¬(60 * (moment.hour : Int) + moment.minute - 0 < 0) := by omega
  have notAfter : ¬(1440 ≤ 60 * (moment.hour : Int) + moment.minute - 0) := by omega
  have hours : (60 * (moment.hour : Int) + moment.minute - 0).toNat / 60 = moment.hour := by omega
  have minutes : (60 * (moment.hour : Int) + moment.minute - 0).toNat % 60 = moment.minute := by
    omega
  simp only [toUniversal, notBefore, notAfter, if_false, hours, minutes]

theorem ofFields?_date (date : Date) :
    Date.ofFields? date.year date.month date.day = some date :=
  dif_pos date.valid

theorem yearText_of_plain {moment : Timestamp} (plain : moment.HasPlainYear) :
    yearText moment.date.year = padded 4 moment.date.year.natAbs := by
  rw [yearText, if_neg (Int.not_lt.mpr plain.1), if_neg (Int.not_lt.mpr plain.2)]

theorem month_lt (date : Date) : date.month < Nat.pow 10 2 :=
  Nat.lt_of_le_of_lt date.valid.month_le (by decide)

theorem day_lt (date : Date) : date.day < Nat.pow 10 2 := by
  have le := date.valid.day_le
  have month : Date.daysInMonth date.year date.month ≤ 31 := by
    unfold Date.daysInMonth
    split
    · split <;> decide
    · split <;> decide
  exact Nat.lt_of_le_of_lt (Nat.le_trans le month) (by decide)

theorem ofFullText?_chars {moment : Timestamp} (valid : moment.IsValid)
    (plain : moment.HasPlainYear) : ofFullText? moment.chars = some moment := by
  have year : moment.date.year.natAbs < 10000 := by
    have first := plain.1
    have last := plain.2
    omega
  have month := month_lt moment.date
  have day := day_lt moment.date
  have hour : moment.hour < Nat.pow 10 2 := Nat.lt_trans valid.hour_lt (by decide)
  have minute : moment.minute < Nat.pow 10 2 := Nat.lt_trans valid.minute_lt (by decide)
  have second : moment.second < Nat.pow 10 2 := Nat.lt_of_le_of_lt valid.second_le (by decide)
  have fraction := fraction?_fractionText valid.nanosecond_lt []
  have date : Date.ofFields? (moment.date.year.natAbs : Int) moment.date.month moment.date.day =
      some moment.date := by
    rw [Int.natAbs_of_nonneg plain.1]
    exact ofFields?_date moment.date
  have behindDay (rest : List Char) :
      (past? 'T' ('T' :: rest) <|> past? 't' ('T' :: rest) <|> past? ' ' ('T' :: rest)) =
        some rest := rfl
  have fits : ([] : List Char) = [] ∧ moment.hour < 24 ∧ moment.minute < 60 ∧ moment.second ≤ 60 :=
    ⟨rfl, valid.hour_lt, valid.minute_lt, valid.second_le⟩
  simp only [chars, dateText, yearText_of_plain plain, List.append_assoc, List.cons_append]
  refine Option.bind_eq_some_iff.mpr ⟨_, digits?_padded_append (by decide) year _, ?_⟩
  refine Option.bind_eq_some_iff.mpr ⟨_, past?_cons '-' _, ?_⟩
  refine Option.bind_eq_some_iff.mpr ⟨_, digits?_padded_append (by decide) month _, ?_⟩
  refine Option.bind_eq_some_iff.mpr ⟨_, past?_cons '-' _, ?_⟩
  refine Option.bind_eq_some_iff.mpr ⟨_, digits?_padded_append (by decide) day _, ?_⟩
  refine Option.bind_eq_some_iff.mpr ⟨_, behindDay _, ?_⟩
  refine Option.bind_eq_some_iff.mpr ⟨_, digits?_padded_append (by decide) hour _, ?_⟩
  refine Option.bind_eq_some_iff.mpr ⟨_, past?_cons ':' _, ?_⟩
  refine Option.bind_eq_some_iff.mpr ⟨_, digits?_padded_append (by decide) minute _, ?_⟩
  refine Option.bind_eq_some_iff.mpr ⟨_, past?_cons ':' _, ?_⟩
  refine Option.bind_eq_some_iff.mpr ⟨_, digits?_padded_append (by decide) second _, ?_⟩
  refine Option.bind_eq_some_iff.mpr ⟨_, fraction, ?_⟩
  refine Option.bind_eq_some_iff.mpr ⟨(0, []), rfl, ?_⟩
  refine Option.bind_eq_some_iff.mpr ⟨moment.date, date, ?_⟩
  rw [if_pos fits]
  exact congrArg some (toUniversal_zero valid)

/-! ## A moment of a signed year -/

theorem digits?_cons {mark : Char} (notDigit : mark.isDigit = false) (count : Nat)
    (rest : List Char) : digits? (count + 1) (mark :: rest) = none := by
  rw [digits?, List.take_succ_cons, List.all_cons, notDigit, Bool.false_and]
  exact if_neg (by simp)

theorem number?_cons {mark : Char} (notBlank : Text.isBlank mark = false)
    (notDigit : mark.isDigit = false) (width : Nat) (rest : List Char) :
    number? (width + 1) (mark :: rest) = none := by
  have noDigits : (List.take (width + 1) (mark :: rest)).takeWhile Char.isDigit = [] := by
    rw [List.take_succ_cons, List.takeWhile_cons_of_neg (by simp [notDigit])]
  rw [number?, Text.dropWhile_isBlank_cons notBlank, noDigits]
  rfl

theorem number?_padded_append {width value : Nat} (positive : 0 < width)
    (small : value < Nat.pow 10 width) (rest : List Char) :
    number? width (padded width value ++ rest) = some (value, rest) := by
  have length := length_padded positive small
  have allDigits : ∀ c ∈ padded width value, c.isDigit = true := fun _ => isDigit_of_mem_padded
  have nonempty : padded width value ≠ [] := padded_ne_nil
  have equal : Number.digitsValue (padded width value) = value := digitsValue_padded
  generalize padded width value = digits at *
  have noBlanks : (digits ++ rest).dropWhile Text.isBlank = digits ++ rest := by
    cases digits with
    | nil => exact absurd rfl nonempty
    | cons c digits =>
        have notBlank := Text.isBlank_of_isDigit (allDigits c List.mem_cons_self)
        exact Text.dropWhile_isBlank_cons notBlank _
  have taken : (digits ++ rest).take width = digits := by
    subst length
    exact List.take_left
  have kept : digits.takeWhile Char.isDigit = digits := List.takeWhile_eq_self_iff.mpr allDigits
  rw [number?, noBlanks, taken, kept, List.drop_left, equal]
  exact if_neg (by simpa using nonempty)

theorem yearText_of_signed {moment : Timestamp} (signed : ¬moment.HasPlainYear) :
    ∃ sign, (sign = '-' ∨ sign = '+') ∧
      yearText moment.date.year = sign :: padded 4 moment.date.year.natAbs := by
  unfold yearText
  split
  · exact ⟨'-', .inl rfl, rfl⟩
  · rename_i notNegative
    split
    · exact ⟨'+', .inr rfl, rfl⟩
    · rename_i notGreater
      exact absurd ⟨Int.not_lt.mp notNegative, Int.not_lt.mp notGreater⟩ signed

theorem year?_signed {sign : Char} (isSign : sign = '-' ∨ sign = '+') (value : Nat)
    (rest : List Char) :
    ∃ year, year? (sign :: (padded 4 value ++ '-' :: rest)) = some (year, '-' :: rest) := by
  have digits : (padded 4 value ++ '-' :: rest).takeWhile Char.isDigit = padded 4 value :=
    takeWhile_padded_append rfl rest
  have nonempty : (padded 4 value).isEmpty = false :=
    List.isEmpty_eq_false_iff.mpr padded_ne_nil
  have hyphen : Text.isBlank '-' = false := by decide
  have plus : Text.isBlank '+' = false := by decide
  rcases isSign with rfl | rfl
  · simp only [year?, Text.dropWhile_isBlank_cons hyphen, digits, nonempty, List.drop_left]
    exact ⟨_, rfl⟩
  · simp only [year?, Text.dropWhile_isBlank_cons plus, digits, nonempty, List.drop_left]
    exact ⟨_, rfl⟩

theorem isBlank_of_mem_chars {moment : Timestamp} {c : Char} (member : c ∈ moment.chars) :
    Text.isBlank c = false := by
  have padded (width value : Nat) : ∀ c ∈ padded width value, Text.isBlank c = false :=
    fun _ member => Text.isBlank_of_isDigit (isDigit_of_mem_padded member)
  have year : ∀ c ∈ yearText moment.date.year, Text.isBlank c = false := by
    unfold yearText
    split
    · exact List.forall_mem_cons.mpr ⟨by decide, padded _ _⟩
    · split
      · exact List.forall_mem_cons.mpr ⟨by decide, padded _ _⟩
      · exact padded _ _
  have date : ∀ c ∈ dateText moment.date, Text.isBlank c = false := by
    simp only [dateText, List.forall_mem_append, List.forall_mem_cons]
    exact ⟨⟨year, by decide, padded _ _⟩, by decide, padded _ _⟩
  have fraction : ∀ c ∈ fractionText moment.nanosecond, Text.isBlank c = false := by
    unfold fractionText
    split
    · simp
    · split
      · exact List.forall_mem_cons.mpr ⟨by decide, padded _ _⟩
      · split
        · exact List.forall_mem_cons.mpr ⟨by decide, padded _ _⟩
        · exact List.forall_mem_cons.mpr ⟨by decide, padded _ _⟩
  revert c
  simp only [chars, List.forall_mem_append, List.forall_mem_cons, List.not_mem_nil,
    false_implies, implies_true, and_true]
  exact ⟨⟨⟨⟨⟨date, by decide, padded _ _⟩, by decide, padded _ _⟩, by decide, padded _ _⟩,
    fraction⟩, by decide⟩

theorem trimChars_text (moment : Timestamp) :
    Text.trimChars moment.text.toList = moment.chars := by
  rw [text, String.toList_ofList]
  exact Text.trimChars_eq_self fun _ => isBlank_of_mem_chars

/-! ## Whole texts -/

theorem ofText?_text_of_plain {moment : Timestamp} (valid : moment.IsValid)
    (plain : moment.HasPlainYear) : ofText? moment.text = some moment := by
  simp only [ofText?, trimChars_text, ofFullText?_chars valid plain, Option.orElse_eq_orElse,
    Option.orElse_some]

theorem ofText?_text_of_signed {moment : Timestamp} (signed : ¬moment.HasPlainYear) :
    ofText? moment.text = none := by
  rcases yearText_of_signed signed with ⟨sign, isSign, yearText⟩
  have notBlank : Text.isBlank sign = false := by rcases isSign with rfl | rfl <;> decide
  have notDigit : sign.isDigit = false := by rcases isSign with rfl | rfl <;> decide
  -- Only the reader of years takes a sign, and the day is then not the end of the text.
  have full (rest : List Char) : ofFullText? (sign :: rest) = none := by
    rw [ofFullText?, digits?_cons notDigit]
    rfl
  have slash (rest : List Char) : ofSlashDate? (sign :: rest) = none := by
    rw [ofSlashDate?, number?_cons notBlank notDigit]
    rfl
  have hyphen (c : Char) (rest : List Char) :
      ofHyphenDate? (sign :: (padded 4 moment.date.year.natAbs ++ '-' ::
        (padded 2 moment.date.month ++ '-' :: (padded 2 moment.date.day ++ c :: rest)))) =
          none := by
    rcases year?_signed isSign moment.date.year.natAbs
      (padded 2 moment.date.month ++ '-' :: (padded 2 moment.date.day ++ c :: rest)) with
      ⟨year, found⟩
    simp only [ofHyphenDate?, found, past?_cons, Option.bind_eq_bind, Option.bind_some,
      number?_padded_append (by decide : 0 < 2) (month_lt moment.date),
      number?_padded_append (by decide : 0 < 2) (day_lt moment.date)]
    exact if_neg (by simp)
  simp only [ofText?, trimChars_text, chars, dateText, yearText, List.append_assoc,
    List.cons_append, full, slash, hyphen, Option.orElse_eq_orElse, Option.orElse_none]

/-! ## Moments that are read -/

theorem isValid_midnight (date : Date) : (midnight date).IsValid :=
  ⟨(by decide : 0 < 24), (by decide : 0 < 60), (by decide : 0 ≤ 60), (by decide : 0 < Nat.pow 10 9)⟩

theorem fraction?_lt {chars rest : List Char} {nanosecond : Nat}
    (found : fraction? chars = some (nanosecond, rest)) : nanosecond < Nat.pow 10 9 := by
  unfold fraction? at found
  split at found
  · rename_i behind
    dsimp only at found
    split at found
    · cases found
    · rw [List.span_eq_takeWhile_dropWhile] at found
      cases found
      generalize kept : (List.takeWhile Char.isDigit behind).take 9 = digits
      have allDigits : ∀ c ∈ digits, c.isDigit = true := by
        intro c member
        rw [← kept] at member
        exact List.mem_takeWhile_imp (List.mem_of_mem_take member)
      have short : digits.length ≤ 9 := kept ▸ List.length_take_le 9 _
      have lt := Number.digitsValue_lt allDigits
      calc Number.digitsValue digits * Nat.pow 10 (9 - digits.length)
          < Nat.pow 10 digits.length * Nat.pow 10 (9 - digits.length) :=
            Nat.mul_lt_mul_of_pos_right lt (Nat.pow_pos (by decide))
        _ = Nat.pow 10 (digits.length + (9 - digits.length)) := (Nat.pow_add 10 _ _).symm
        _ = Nat.pow 10 9 := by rw [Nat.add_sub_cancel' short]
  · cases found
    decide

theorem offset?_bounds {chars rest : List Char} {offset : Int}
    (found : offset? chars = some (offset, rest)) : -1440 < offset ∧ offset < 1440 := by
  unfold offset? at found
  split at found
  · cases found
    decide
  · cases found
    decide
  · rcases Option.bind_eq_some_iff.mp found with ⟨⟨negative, behindSign⟩, -, found⟩
    rcases Option.bind_eq_some_iff.mp found with ⟨⟨hours, behindHours⟩, -, found⟩
    rcases Option.bind_eq_some_iff.mp found with ⟨behindMark, -, found⟩
    rcases Option.bind_eq_some_iff.mp found with ⟨⟨minutes, behindMinutes⟩, -, found⟩
    dsimp only at found
    split at found
    · cases found
    · cases found
      cases negative <;> simp only [Bool.false_eq_true, if_true, if_false] <;> omega

theorem isValid_toUniversal {given : Timestamp} (valid : given.IsValid) {offset : Int}
    (bounds : -1440 < offset ∧ offset < 1440) : (given.toUniversal offset).IsValid := by
  have hour := valid.hour_lt
  have minute := valid.minute_lt
  have timely (date : Date) (minutes : Int) (positive : 0 ≤ minutes) (inDay : minutes < 1440) :
      ({ given with date, hour := minutes.toNat / 60, minute := minutes.toNat % 60 } :
        Timestamp).IsValid :=
    ⟨by dsimp only; omega, Nat.mod_lt _ (by decide), valid.second_le, valid.nanosecond_lt⟩
  by_cases before : 60 * (given.hour : Int) + given.minute - offset < 0
  · simp only [toUniversal, before, if_true]
    exact timely _ _ (by omega) (by omega)
  · by_cases after : 1440 ≤ 60 * (given.hour : Int) + given.minute - offset
    · simp only [toUniversal, before, after, if_true, if_false]
      exact timely _ _ (by omega) (by omega)
    · simp only [toUniversal, before, after, if_false]
      exact timely _ _ (by omega) (by omega)

theorem isValid_of_ofFullText? {chars : List Char} {moment : Timestamp}
    (found : ofFullText? chars = some moment) : moment.IsValid := by
  rcases Option.bind_eq_some_iff.mp found with ⟨⟨year, _⟩, -, found⟩
  rcases Option.bind_eq_some_iff.mp found with ⟨_, -, found⟩
  rcases Option.bind_eq_some_iff.mp found with ⟨⟨month, _⟩, -, found⟩
  rcases Option.bind_eq_some_iff.mp found with ⟨_, -, found⟩
  rcases Option.bind_eq_some_iff.mp found with ⟨⟨day, _⟩, -, found⟩
  rcases Option.bind_eq_some_iff.mp found with ⟨_, -, found⟩
  rcases Option.bind_eq_some_iff.mp found with ⟨⟨hour, _⟩, -, found⟩
  rcases Option.bind_eq_some_iff.mp found with ⟨_, -, found⟩
  rcases Option.bind_eq_some_iff.mp found with ⟨⟨minute, _⟩, -, found⟩
  rcases Option.bind_eq_some_iff.mp found with ⟨_, -, found⟩
  rcases Option.bind_eq_some_iff.mp found with ⟨⟨second, _⟩, -, found⟩
  rcases Option.bind_eq_some_iff.mp found with ⟨⟨nanosecond, _⟩, fraction, found⟩
  rcases Option.bind_eq_some_iff.mp found with ⟨⟨offset, _⟩, offsetFound, found⟩
  rcases Option.bind_eq_some_iff.mp found with ⟨date, -, found⟩
  split at found
  · rename_i fits
    cases found
    exact isValid_toUniversal ⟨fits.2.1, fits.2.2.1, fits.2.2.2, fraction?_lt fraction⟩
      (offset?_bounds offsetFound)
  · cases found

theorem isValid_of_ofDay? {year : Int} {month day : Nat} {rest : List Char} {moment : Timestamp}
    (found : ofDay? year month day rest = some moment) : moment.IsValid := by
  unfold ofDay? at found
  split at found
  · rcases Option.map_eq_some_iff.mp found with ⟨date, -, rfl⟩
    exact isValid_midnight date
  · cases found

theorem isValid_of_ofSlashDate? {chars : List Char} {moment : Timestamp}
    (found : ofSlashDate? chars = some moment) : moment.IsValid := by
  rcases Option.bind_eq_some_iff.mp found with ⟨⟨month, _⟩, -, found⟩
  rcases Option.bind_eq_some_iff.mp found with ⟨_, -, found⟩
  rcases Option.bind_eq_some_iff.mp found with ⟨⟨day, _⟩, -, found⟩
  rcases Option.bind_eq_some_iff.mp found with ⟨_, -, found⟩
  rcases Option.bind_eq_some_iff.mp found with ⟨⟨year, _⟩, -, found⟩
  exact isValid_of_ofDay? found

theorem isValid_of_ofHyphenDate? {chars : List Char} {moment : Timestamp}
    (found : ofHyphenDate? chars = some moment) : moment.IsValid := by
  rcases Option.bind_eq_some_iff.mp found with ⟨⟨year, _⟩, -, found⟩
  rcases Option.bind_eq_some_iff.mp found with ⟨_, -, found⟩
  rcases Option.bind_eq_some_iff.mp found with ⟨⟨month, _⟩, -, found⟩
  rcases Option.bind_eq_some_iff.mp found with ⟨_, -, found⟩
  rcases Option.bind_eq_some_iff.mp found with ⟨⟨day, _⟩, -, found⟩
  exact isValid_of_ofDay? found

theorem isValid_of_ofText? {text : String} {moment : Timestamp}
    (found : ofText? text = some moment) : moment.IsValid := by
  simp only [ofText?, Option.orElse_eq_orElse, Option.orElse_eq_or, Option.or_eq_some_iff] at found
  rcases found with full | ⟨-, slash | ⟨-, hyphen⟩⟩
  · exact isValid_of_ofFullText? full
  · exact isValid_of_ofSlashDate? slash
  · exact isValid_of_ofHyphenDate? hyphen

end Timestamp

end Bulletin
