import Mathlib.Data.List.Infix
import Bulletin.Text.Bytes
/-!
# Cuts and first places

A text can be cut where a character of it starts or ends, and a search by bytes finds the first
place.
-/

namespace Bulletin.Text

@[simp] theorem byteCount_nil : byteCount [] = 0 := rfl

@[simp] theorem byteCount_cons (c : Char) (rest : List Char) :
    byteCount (c :: rest) = c.utf8Size + byteCount rest := rfl

@[simp] theorem byteCount_append (first second : List Char) :
    byteCount (first ++ second) = byteCount first + byteCount second := by
  induction first with
  | nil => simp
  | cons c first induction => simp [induction, Nat.add_assoc]

theorem byteCount_eq_zero {chars : List Char} : byteCount chars = 0 ↔ chars = [] := by
  cases chars with
  | nil => simp only [byteCount_nil]
  | cons c rest =>
      have := c.utf8Size_pos
      simp only [byteCount_cons, reduceCtorEq, iff_false]
      omega

theorem byteCount_eq_of_perm {first second : List Char} (perm : first.Perm second) :
    byteCount first = byteCount second := by
  induction perm with
  | nil => rfl
  | cons c _ induction => rw [byteCount_cons, byteCount_cons, induction]
  | swap c d rest => simp only [byteCount_cons, Nat.add_left_comm]
  | trans _ _ early late => exact early.trans late

theorem byteCount_toList (text : String) : byteCount text.toList = text.utf8ByteSize := by
  induction text using String.push_induction with
  | empty => rfl
  | push text c ih => simp [ih]

theorem fromByte?_eq_some {chars rest : List Char} {start : Nat} :
    fromByte? chars start = some rest ↔
      ∃ before, chars = before ++ rest ∧ byteCount before = start := by
  induction chars, start using fromByte?.induct with
  | case1 chars => simp [fromByte?, byteCount_eq_zero]
  | case2 start =>
      simp only [fromByte?, reduceCtorEq, List.nil_eq, List.append_eq_nil_iff, false_iff]
      rintro ⟨before, ⟨rfl, rfl⟩, count⟩
      simp at count
  | case3 c tail start fits ih =>
      simp only [fromByte?, fits, if_true, ih]
      constructor
      · rintro ⟨before, rfl, count⟩
        exact ⟨c :: before, rfl, by rw [byteCount_cons, count, Nat.add_sub_cancel' fits]⟩
      · rintro ⟨before, split, count⟩
        cases before with
        | nil => simp at count
        | cons first before =>
            obtain ⟨rfl, rfl⟩ := List.cons_eq_cons.mp split
            rw [byteCount_cons] at count
            exact ⟨before, rfl, Nat.eq_sub_of_add_eq' count⟩
  | case4 c tail start short =>
      simp only [fromByte?, short, if_false, reduceCtorEq, false_iff]
      rintro ⟨before, split, count⟩
      cases before with
      | nil => simp at count
      | cons first before =>
          obtain ⟨rfl, rfl⟩ := List.cons_eq_cons.mp split
          rw [byteCount_cons] at count
          omega

theorem isSome_fromByte? {text : String} {start : Nat} :
    (fromByte? text.toList start).isSome ↔ String.Pos.Raw.IsValid text ⟨start⟩ := by
  rw [Option.isSome_iff_exists, String.Pos.Raw.isValid_iff_exists_append]
  constructor
  · rintro ⟨rest, cut⟩
    obtain ⟨before, split, count⟩ := fromByte?_eq_some.mp cut
    refine ⟨String.ofList before, String.ofList rest, ?_, ?_⟩
    · rw [← String.ofList_append, ← split, String.ofList_toList]
    · have size := byteCount_toList (String.ofList before)
      rw [String.toList_ofList, count] at size
      exact congrArg String.Pos.Raw.mk size
  · rintro ⟨before, rest, rfl, place⟩
    refine ⟨rest.toList, fromByte?_eq_some.mpr ⟨before.toList, String.toList_append, ?_⟩⟩
    rw [byteCount_toList]
    exact (congrArg String.Pos.Raw.byteIdx place).symm

theorem findByte?_eq_some {sought chars : List Char} {offset : Nat}
    (found : findByte? sought chars = some offset) :
    ∃ before behind, chars = before ++ (sought ++ behind) ∧ byteCount before = offset ∧
      ∀ earlier < before.length, ¬ sought <+: chars.drop earlier := by
  induction chars generalizing offset with
  | nil =>
      simp only [findByte?, Option.ite_none_right_eq_some, Option.some.injEq] at found
      obtain ⟨rfl, rfl⟩ := found
      exact ⟨[], [], rfl, rfl, fun earlier before => absurd before (Nat.not_lt_zero _)⟩
  | cons c rest ih =>
      rw [findByte?] at found
      split at found
      case isTrue here =>
        obtain ⟨behind, split⟩ := List.isPrefixOf_iff_prefix.mp here
        cases found
        exact ⟨[], behind, split.symm, rfl, fun earlier before => absurd before (Nat.not_lt_zero _)⟩
      case isFalse later =>
        obtain ⟨further, foundLater, rfl⟩ := Option.map_eq_some_iff.mp found
        obtain ⟨before, behind, split, count, first⟩ := ih foundLater
        refine ⟨c :: before, behind, by simp [split], by rw [byteCount_cons, count], ?_⟩
        rintro (_ | earlier) bound
        · rwa [List.drop_zero, ← List.isPrefixOf_iff_prefix]
        · exact first earlier (Nat.lt_of_succ_lt_succ bound)

theorem findByte?_eq_none {sought chars : List Char} (missing : findByte? sought chars = none)
    (place : Nat) : ¬ sought <+: chars.drop place := by
  induction chars generalizing place with
  | nil =>
      rw [List.drop_nil, List.prefix_nil]
      simpa [findByte?] using missing
  | cons c rest ih =>
      rw [findByte?] at missing
      split at missing
      case isTrue => cases missing
      case isFalse notHere =>
        cases place with
        | zero => rwa [List.drop_zero, ← List.isPrefixOf_iff_prefix]
        | succ place => exact ih (Option.map_eq_none_iff.mp missing) place

end Bulletin.Text
