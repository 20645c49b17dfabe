import Bulletin.Text.Basic
import Mathlib.Data.List.TakeWhile
/-!
# Blank texts

Nothing is left of a text by trimming exactly where there is nothing but blanks in it. A trimmed
text is the same text without the blanks at its ends, however many there are.
-/

namespace Bulletin.Text

theorem trim_eq_empty {text : String} : trim text = "" ↔ isAllBlank text = true := by
  have emptyText : trim text = "" ↔ trimChars text.toList = [] := by
    rw [trim, ← String.ofList_nil, String.ofList_inj]
  rw [emptyText, isAllBlank, List.all_eq_true, trimChars, List.reverse_eq_nil_iff,
    List.dropWhile_eq_nil_iff]
  constructor
  · -- The first character that is not blank would have stayed.
    intro allDropped
    apply List.dropWhile_eq_nil_iff.mp
    cases kept : text.toList.dropWhile isBlank with
    | nil => rfl
    | cons c rest =>
        have notBlank := List.head?_dropWhile_not isBlank text.toList
        have isDropped := allDropped c (by simp [kept])
        simp [kept, isDropped] at notBlank
  · intro allBlank c member
    rw [List.dropWhile_eq_nil_iff.mpr allBlank] at member
    cases member

theorem isBlank_of_isDigit {c : Char} (isDigit : c.isDigit = true) : isBlank c = false := by
  have bounds := Char.isDigit_iff_toNat.mp isDigit
  have first : 48 ≤ c.toNat := bounds.1
  have last : c.toNat ≤ 57 := bounds.2
  simp only [isBlank, blankRanges, List.any_cons, List.any_nil, Bool.or_false, Bool.or_eq_false_iff,
    Bool.and_eq_false_iff, decide_eq_false_iff_not]
  omega

theorem dropWhile_isBlank_cons {c : Char} (notBlank : isBlank c = false) (rest : List Char) :
    (c :: rest).dropWhile isBlank = c :: rest :=
  List.dropWhile_cons_of_neg (by simp [notBlank])

theorem trimChars_eq_self {chars : List Char} (noBlanks : ∀ c ∈ chars, isBlank c = false) :
    trimChars chars = chars := by
  have kept (chars : List Char) (noBlanks : ∀ c ∈ chars, isBlank c = false) :
      chars.dropWhile isBlank = chars := by
    cases chars with
    | nil => rfl
    | cons c rest => exact dropWhile_isBlank_cons (noBlanks c List.mem_cons_self) rest
  have keptReverse := kept chars.reverse fun c member => noBlanks c (List.mem_reverse.mp member)
  rw [trimChars, kept chars noBlanks, keptReverse, List.reverse_reverse]

/-! ## Blanks at the ends -/

theorem trimChars_padded {before after : List Char} (blankBefore : ∀ c ∈ before, isBlank c = true)
    (blankAfter : ∀ c ∈ after, isBlank c = true) (chars : List Char) :
    trimChars (before ++ chars ++ after) = trimChars chars := by
  have blankReverse : ∀ c ∈ after.reverse, isBlank c = true :=
    fun c member => blankAfter c (List.mem_reverse.mp member)
  rw [trimChars, trimChars, List.append_assoc, List.dropWhile_append_of_pos blankBefore,
    List.dropWhile_append]
  split
  next allBlank =>
    rw [List.dropWhile_eq_nil_iff.mpr blankAfter, List.isEmpty_iff.mp allBlank]
  next => rw [List.reverse_append, List.dropWhile_append_of_pos blankReverse]

theorem exists_padding (chars : List Char) :
    ∃ before after, (∀ c ∈ before, isBlank c = true) ∧ (∀ c ∈ after, isBlank c = true) ∧
      chars = before ++ trimChars chars ++ after := by
  refine ⟨chars.takeWhile isBlank, ((chars.dropWhile isBlank).reverse.takeWhile isBlank).reverse,
    ?_, ?_, ?_⟩
  · exact fun c member => List.mem_takeWhile_imp member
  · exact fun c member => List.mem_takeWhile_imp (List.mem_reverse.mp member)
  · rw [trimChars, List.append_assoc, ← List.reverse_append, List.takeWhile_append_dropWhile,
      List.reverse_reverse, List.takeWhile_append_dropWhile]

theorem trim_trim (text : String) : trim (trim text) = trim text := by
  rcases exists_padding text.toList with ⟨before, after, blankBefore, blankAfter, padded⟩
  have inner := trimChars_padded blankBefore blankAfter (trimChars text.toList)
  rw [← padded] at inner
  rw [trim, trim, String.toList_ofList, ← inner]

theorem trimChars_map {change : Char → Char} (same : ∀ c, isBlank (change c) = isBlank c)
    (chars : List Char) : trimChars (chars.map change) = (trimChars chars).map change := by
  have asBefore : isBlank ∘ change = isBlank := funext same
  rw [trimChars, trimChars, List.dropWhile_map, asBefore, ← List.map_reverse, List.dropWhile_map,
    asBefore, List.map_reverse]

end Bulletin.Text
