import Bulletin.Number.Hexadecimal
/-!
# Hexadecimal digits

A number is written with as many digits as it is to have, each of them one of sixteen. A digit is
read whatever the case of its letter, and no other character is read for it.
-/

namespace Bulletin

/-! ## Letters of either case -/

namespace Text

theorem toLower_of_large {c : Char} (large : 128 ≤ c.toNat) : c.toLower = c := by
  unfold Char.toLower
  rw [dif_neg]
  rintro ⟨-, upper⟩
  have bound : c.toNat ≤ 90 := UInt32.le_iff_toNat_le.mp upper
  omega

theorem of_ascii {P : Char → Prop} (ascii : ∀ code : Fin 128, P (Char.ofNat code)) {c : Char}
    (small : c.toNat < 128) : P c := by
  have here := ascii ⟨c.toNat, small⟩
  rwa [Char.ofNat_toNat] at here

/-- What does not see the case of ASCII letters does not see it at all. -/
theorem apply_toLower {see : Char → α}
    (ascii : ∀ code : Fin 128, see (Char.ofNat code).toLower = see (Char.ofNat code)) (c : Char) :
    see c.toLower = see c := by
  by_cases small : c.toNat < 128
  · exact of_ascii (P := fun c => see c.toLower = see c) ascii small
  · rw [toLower_of_large (Nat.not_lt.mp small)]

end Text

namespace Number

/-! ## Written digits -/

theorem length_hexDigits (count value : Nat) : (hexDigits count value).length = count := by
  induction count generalizing value with
  | zero => rfl
  | succ count induction =>
      rw [hexDigits, List.length_append, induction, List.length_singleton]

theorem exists_of_mem_hexDigits {count value : Nat} {c : Char}
    (member : c ∈ hexDigits count value) : ∃ digit : Fin 16, c = Nat.digitChar digit.val := by
  induction count generalizing value with
  | zero => cases member
  | succ count induction =>
      rw [hexDigits, List.mem_append, List.mem_singleton] at member
      rcases member with earlier | rfl
      · exact induction earlier
      · exact ⟨⟨value % 16, Nat.mod_lt value (by decide)⟩, rfl⟩

/-! ## Digits read -/

theorem hexValue?_digitChar (digit : Fin 16) : hexValue? (Nat.digitChar digit) = some digit := by
  revert digit
  decide

theorem hexValue?_toLower (c : Char) : hexValue? c.toLower = hexValue? c :=
  Text.apply_toLower (by decide +kernel) c

theorem lt_of_hexValue? {c : Char} {digit : Fin 16} (isDigit : hexValue? c = some digit) :
    c.toNat < 128 := by
  have bound {last : Char} (small : last.toNat < 128) (before : c ≤ last) : c.toNat < 128 :=
    Nat.lt_of_le_of_lt (UInt32.le_iff_toNat_le.mp before) small
  unfold hexValue? at isDigit
  split at isDigit
  next inRange => exact bound (by decide) inRange.2
  next =>
    split at isDigit
    next inRange => exact bound (by decide) inRange.2
    next =>
      split at isDigit
      next inRange => exact bound (by decide) inRange.2
      next => cases isDigit

theorem hexValue?_eq_some {c : Char} {digit : Fin 16} :
    hexValue? c = some digit ↔ c.toLower = Nat.digitChar digit := by
  constructor
  · intro isDigit
    exact Text.of_ascii
      (P := fun c => ∀ digit, hexValue? c = some digit → c.toLower = Nat.digitChar digit.val)
      (by decide +kernel) (lt_of_hexValue? isDigit) digit isDigit
  · intro same
    rw [← hexValue?_toLower, same, hexValue?_digitChar]

theorem isSome_mapM_hexValue? (chars : List Char) :
    (chars.mapM hexValue?).isSome = chars.all fun c => (hexValue? c).isSome := by
  induction chars with
  | nil => rfl
  | cons c rest induction =>
      rw [List.mapM_cons, List.all_cons, ← induction]
      cases hexValue? c with
      | none => rfl
      | some digit => cases rest.mapM hexValue? <;> rfl

theorem mapM_hexValue?_eq_some {digits : List Char} {values : List (Fin 16)} :
    digits.mapM hexValue? = some values ↔
      digits.map Char.toLower = values.map fun value => Nat.digitChar value.val := by
  induction digits generalizing values with
  | nil => cases values <;> simp
  | cons c digits induction =>
      rw [List.mapM_cons]
      cases values with
      | nil => simp [Option.bind_eq_some_iff]
      | cons value values => simp [Option.bind_eq_some_iff, hexValue?_eq_some, induction]

end Number

end Bulletin
