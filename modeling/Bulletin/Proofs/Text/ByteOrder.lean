import Mathlib.Data.String.Basic
import Bulletin.Text.Bytes
/-!
# The order of bytes

Texts are ordered by their code points, and that is the order of their UTF-8 forms byte by byte. A
character with more bytes than another has the greater first byte, and characters of one size have
their bits, from high to low, in bytes that start alike.
-/

namespace Bulletin.Text

theorem bytes_eq_flatMap (text : String) :
    bytes text = text.toList.flatMap String.utf8EncodeChar := by
  rw [bytes, String.toUTF8_eq_toByteArray, ← String.utf8Encode_toList, List.utf8Encode,
    List.toList_data_toByteArray]

/-! ## The bytes of a character -/

/-- The last bytes of a code point, of six bits each. -/
def continuation : (count : Nat) → (point : Nat) → List UInt8
  | 0, _ => []
  | count + 1, point =>
      UInt8.ofNat (point / 64 ^ count % 64 + 128) :: continuation count point

def furtherBytes (point : Nat) : Nat :=
  if point ≤ 127 then 0 else if point ≤ 2047 then 1 else if point ≤ 65535 then 2 else 3

/-- What the first byte has above the bits of the code point, by how many bytes follow it. -/
def leadingMark : (count : Nat) → Nat
  | 0 => 0
  | 1 => 192
  | 2 => 224
  | _ => 240

def leadingByte (point : Nat) : Nat :=
  point / 64 ^ furtherBytes point + leadingMark (furtherBytes point)

theorem toNat_lt (c : Char) : c.toNat < 1114112 := by
  have valid := c.valid
  simp only [UInt32.isValidChar, Nat.isValidChar] at valid
  change c.val.toNat < 1114112
  omega

theorem utf8EncodeChar_eq (c : Char) :
    String.utf8EncodeChar c =
      UInt8.ofNat (leadingByte c.toNat) :: continuation (furtherBytes c.toNat) c.toNat := by
  have bound := toNat_lt c
  rw [leadingByte, furtherBytes]
  change (if c.toNat ≤ 127 then _ else if c.toNat ≤ 2047 then _ else
    if c.toNat ≤ 65535 then _ else _) = _
  split_ifs with one two three
  · simp [leadingMark, continuation]
  · have bits : c.toNat / 64 < 32 := by omega
    simp [leadingMark, continuation, Nat.mod_eq_of_lt bits]
  · have bits : c.toNat / 4096 < 16 := by omega
    simp [leadingMark, continuation, Nat.mod_eq_of_lt bits]
  · have bits : c.toNat / 262144 < 8 := by omega
    simp [leadingMark, continuation, Nat.mod_eq_of_lt bits]

theorem leadingByte_lt {point : Nat} (bound : point < 1114112) : leadingByte point < 256 := by
  rw [leadingByte, furtherBytes]
  split_ifs
  all_goals simp only [leadingMark]
  all_goals omega

theorem leadingByte_lt_of_ne {point other : Nat} (less : point < other) (bound : other < 1114112)
    (different : furtherBytes point ≠ furtherBytes other) :
    leadingByte point < leadingByte other := by
  rw [leadingByte, leadingByte]
  rw [furtherBytes, furtherBytes] at different ⊢
  split_ifs at different ⊢
  all_goals simp only [leadingMark, ne_eq, not_true_eq_false] at different ⊢
  all_goals omega

theorem continuation_append_lt {count point other : Nat} (less : point < other)
    (same : point / 64 ^ count = other / 64 ^ count) (rest next : List UInt8) :
    continuation count point ++ rest < continuation count other ++ next := by
  induction count with
  | zero =>
      rw [Nat.pow_zero, Nat.div_one, Nat.div_one] at same
      exact absurd same less.ne
  | succ count induction =>
      rw [Nat.pow_succ, ← Nat.div_div_eq_div_mul, ← Nat.div_div_eq_div_mul] at same
      have le : point / 64 ^ count ≤ other / 64 ^ count := Nat.div_le_div_right less.le
      rw [continuation, continuation, List.cons_append, List.cons_append, List.cons_lt_cons_iff]
      rcases le.lt_or_eq with lessHere | sameHere
      · apply Or.inl
        rw [UInt8.lt_iff_toNat_lt, UInt8.toNat_ofNat', UInt8.toNat_ofNat']
        omega
      · rw [sameHere]
        exact .inr ⟨rfl, induction sameHere⟩

theorem utf8EncodeChar_append_lt {c d : Char} (less : c < d) (rest next : List UInt8) :
    String.utf8EncodeChar c ++ rest < String.utf8EncodeChar d ++ next := by
  have lessPoint : c.toNat < d.toNat := less
  have bound := leadingByte_lt (toNat_lt c)
  have boundOther := leadingByte_lt (toNat_lt d)
  rw [utf8EncodeChar_eq, utf8EncodeChar_eq, List.cons_append, List.cons_append,
    List.cons_lt_cons_iff, UInt8.lt_iff_toNat_lt, UInt8.toNat_ofNat_of_lt' bound,
    UInt8.toNat_ofNat_of_lt' boundOther]
  by_cases sameSize : furtherBytes c.toNat = furtherBytes d.toNat
  · rw [leadingByte, leadingByte, sameSize]
    have le : c.toNat / 64 ^ furtherBytes d.toNat ≤ d.toNat / 64 ^ furtherBytes d.toNat :=
      Nat.div_le_div_right lessPoint.le
    rcases le.lt_or_eq with lessHere | sameHere
    · exact .inl (Nat.add_lt_add_right lessHere _)
    · rw [sameHere]
      exact .inr ⟨rfl, continuation_append_lt lessPoint sameHere rest next⟩
  · exact .inl (leadingByte_lt_of_ne lessPoint (toNat_lt d) sameSize)

/-! ## The bytes of a text -/

theorem flatMap_utf8EncodeChar_lt {chars others : List Char} (less : chars < others) :
    chars.flatMap String.utf8EncodeChar < others.flatMap String.utf8EncodeChar := by
  induction less with
  | nil =>
      rw [List.flatMap_cons, utf8EncodeChar_eq]
      exact List.nil_lt_cons _ _
  | rel less =>
      rw [List.flatMap_cons, List.flatMap_cons]
      exact utf8EncodeChar_append_lt less _ _
  | cons _ induction =>
      rw [List.flatMap_cons, List.flatMap_cons]
      exact List.append_left_lt induction

theorem bytes_strictMono {text other : String} (less : text < other) :
    bytes text < bytes other := by
  rw [bytes_eq_flatMap, bytes_eq_flatMap]
  exact flatMap_utf8EncodeChar_lt (String.lt_iff_toList_lt.mp less)

theorem bytes_lt_bytes {text other : String} : bytes text < bytes other ↔ text < other := by
  constructor
  · intro less
    by_contra notLess
    rcases (not_lt.mp notLess).lt_or_eq with greater | rfl
    · exact List.lt_asymm less (bytes_strictMono greater)
    · exact List.lt_irrefl _ less
  · exact bytes_strictMono

example : bytes "z" < bytes "é" ∧ bytes "～" < bytes "😀" := by decide +kernel

end Bulletin.Text
