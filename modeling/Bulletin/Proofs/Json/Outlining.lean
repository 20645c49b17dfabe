import Bulletin.Proofs.Json.Outline
import Bulletin.Proofs.Json.Reordering
import Bulletin.Proofs.Number.Hexadecimal
/-!
# Outlines of values

Every spelling of a value is one of an outline, and values that differ in the order of members
alone have outlines that do so.
-/

namespace Bulletin.Json

/-! ## Strings and numbers -/

theorem isSome_hexValue?_of_mem {count value : Nat} {digit : Char}
    (isDigit : digit ∈ Number.hexDigits count value) : (Number.hexValue? digit).isSome = true := by
  rcases Number.exists_of_mem_hexDigits isDigit with ⟨digit, rfl⟩
  rw [Number.hexValue?_digitChar]
  rfl

theorem exists_textPart (c : Char) :
    ∃ part : TextPart, part.IsProper ∧ part.chars = charText c := by
  unfold charText
  -- The seven characters with an escape of one letter.
  iterate 7
    split
    · exact ⟨.letter _, by simp [TextPart.IsProper], rfl⟩
  rename_i notQuote notBackslash _ _ _ _ _
  split
  case isTrue control =>
    have digits := Number.length_hexDigits 4 c.toNat
    rcases List.length_eq_four.mp digits with ⟨first, second, third, fourth, equal⟩
    refine ⟨.code first second third fourth, ?_, by rw [equal]; rfl⟩
    intro digit isDigit
    rw [← equal] at isDigit
    exact isSome_hexValue?_of_mem isDigit
  case isFalse notControl =>
    exact ⟨.plain c, ⟨notQuote, notBackslash, Nat.not_lt.mp notControl⟩, rfl⟩

theorem exists_quoted (value : String) :
    ∃ parts : List TextPart, (∀ part ∈ parts, part.IsProper) ∧
      quotedChars parts = stringText value := by
  have parts (chars : List Char) : ∃ parts : List TextPart, (∀ part ∈ parts, part.IsProper) ∧
      parts.flatMap TextPart.chars = chars.flatMap charText := by
    induction chars with
    | nil => exact ⟨[], fun _ isPart => (List.not_mem_nil isPart).elim, rfl⟩
    | cons c chars induction =>
        rcases exists_textPart c with ⟨part, proper, written⟩
        rcases induction with ⟨parts, others, equal⟩
        refine ⟨part :: parts, List.forall_mem_cons.mpr ⟨proper, others⟩, ?_⟩
        rw [List.flatMap_cons, List.flatMap_cons, written, equal]
  rcases parts value.toList with ⟨parts, proper, equal⟩
  exact ⟨parts, proper, by rw [quotedChars, equal, stringText]⟩

theorem exists_numeral (value : Int) :
    ∃ numeral : Numeral, numeral.IsProper ∧ numeral.chars = numberText (.integer value) := by
  refine ⟨⟨decide (value < 0), Number.digitChars value.natAbs, [], none⟩, ?_, ?_⟩
  · constructor
    · exact fun c isDigit => Number.isDigit_of_mem_digitChars isDigit
    · exact Number.digitChars_ne_nil _
    · intro isZero
      have zero : value.natAbs = 0 := by
        by_contra positive
        exact Number.head?_digitChars (Nat.pos_of_ne_zero positive) isZero
      simp only [zero]
      rfl
    · exact fun c isDigit => (List.not_mem_nil isDigit).elim
    · exact fun exponent isExponent => by cases isExponent
  · simp [Numeral.chars, Numeral.unsigned, Numeral.fractionChars, Numeral.exponentChars, numberText]

/-! ## Values -/

def Outlines (value : Json) (outline : Outline) : Prop :=
  ∀ chars, Spells value chars → outline.Spells chars

structure OutlinesMember (member : String × Json) (outline : List TextPart × Outline) : Prop where
  proper : ∀ part ∈ outline.1, part.IsProper
  key : quotedChars outline.1 = stringText member.1
  value : Outlines member.2 outline.2

theorem outlines_null : Outlines .null .null := by
  intro chars spells
  rw [Spells] at spells
  rw [Outline.Spells]
  exact spells

theorem outlines_boolean (value : Bool) : Outlines (.boolean value) (.boolean value) := by
  intro chars spells
  cases value
  all_goals
    rw [Spells] at spells
    rw [Outline.Spells]
    exact spells

theorem exists_outlines_number (value : Json.Number) :
    ∃ outline, Outlines (.number value) outline ∧ outline.Reorders outline := by
  cases value with
  | integer value =>
      rcases exists_numeral value with ⟨numeral, proper, written⟩
      refine ⟨.number numeral, ?_, .number numeral⟩
      intro chars spells
      rw [Spells] at spells
      rw [Outline.Spells]
      exact ⟨proper, spells.2.trans written.symm⟩
  | real negative magnitude =>
      -- No real number is exact, so it has no spelling.
      refine ⟨.null, ?_, .null⟩
      intro chars spells
      rw [Spells] at spells
      exact spells.1.elim

theorem exists_outlines_text (value : String) : ∃ parts, Outlines (.text value) (.text parts) := by
  rcases exists_quoted value with ⟨parts, proper, written⟩
  refine ⟨parts, ?_⟩
  intro chars spells
  rw [Spells] at spells
  rw [Outline.Spells]
  exact ⟨proper, spells.trans written.symm⟩

theorem outlines_array {items : List Json} {outlines : List Outline}
    (inItems : List.Forall₂ Outlines items outlines) :
    Outlines (.array (.ofList items)) (.array outlines) := by
  have contents {first : Bool} {chars : List Char}
      (spells : SpellsItems first (.ofList items) chars) :
      Outline.SpellsItems first outlines chars := by
    induction inItems generalizing first chars with
    | nil =>
        rw [Items.ofList, SpellsItems] at spells
        rw [Outline.SpellsItems]
        exact spells
    | cons ofHead _ induction =>
        rw [Items.ofList, SpellsItems] at spells
        rcases spells with ⟨lead, item, others, isLead, spellsHead, spellsTail, equal⟩
        rw [Outline.SpellsItems]
        exact ⟨lead, item, others, isLead, ofHead item spellsHead, induction spellsTail, equal⟩
  intro chars spells
  rw [Spells] at spells
  rcases spells with ⟨inside, spells, equal⟩
  rw [Outline.Spells]
  exact ⟨inside, contents spells, equal⟩

theorem outlines_object {members : List (String × Json)}
    {outlines : List (List TextPart × Outline)}
    (inMembers : List.Forall₂ OutlinesMember members outlines) :
    Outlines (.object (.ofList members)) (.object outlines) := by
  have contents {first : Bool} {chars : List Char}
      (spells : SpellsMembers first (.ofList members) chars) :
      Outline.SpellsMembers first outlines chars := by
    induction inMembers generalizing first chars with
    | nil =>
        rw [Members.ofList, SpellsMembers] at spells
        rw [Outline.SpellsMembers]
        exact spells
    | @cons member outline members outlines ofHead _ induction =>
        rcases member with ⟨key, value⟩
        rcases outline with ⟨parts, outline⟩
        rw [Members.ofList, SpellsMembers] at spells
        rcases spells with
          ⟨lead, before, behind, item, others, isLead, isBefore, isBehind, spellsValue, spellsTail,
            equal⟩
        rw [← ofHead.key] at equal
        rw [Outline.SpellsMembers]
        exact ⟨lead, before, behind, item, others, isLead, ofHead.proper, isBefore, isBehind,
          ofHead.value item spellsValue, induction spellsTail, equal⟩
  intro chars spells
  rw [Spells] at spells
  rcases spells with ⟨inside, spells, equal⟩
  rw [Outline.Spells]
  exact ⟨inside, contents spells, equal⟩

/-! ### Texts without escapes -/

def plainParts (text : String) : List TextPart :=
  text.toList.map .plain

structure IsPlain (text : String) : Prop where
  proper : ∀ part ∈ plainParts text, part.IsProper
  written : quotedChars (plainParts text) = stringText text

theorem IsPlain.outlines {text : String} (plain : IsPlain text) :
    Outlines (.text text) (.text (plainParts text)) := by
  intro chars spells
  rw [Spells] at spells
  rw [Outline.Spells]
  exact ⟨plain.proper, spells.trans plain.written.symm⟩

theorem IsPlain.member {key : String} (plain : IsPlain key) {value : Json} {outline : Outline}
    (ofValue : Outlines value outline) : OutlinesMember (key, value) (plainParts key, outline) :=
  ⟨plain.proper, plain.written, ofValue⟩

/-! ### All values -/

theorem induction_on {motive : Json → Prop} (null : motive .null)
    (boolean : ∀ value, motive (.boolean value)) (number : ∀ value, motive (.number value))
    (text : ∀ value, motive (.text value))
    (array : ∀ items, (∀ item ∈ items, motive item) → motive (.array (.ofList items)))
    (object : ∀ members : List (String × Json), (∀ member ∈ members, motive member.2) →
      motive (.object (.ofList members)))
    (value : Json) : motive value :=
  @Json.rec motive (fun items => ∀ item ∈ items.toList, motive item)
    (fun members => ∀ member ∈ members.toList, motive member.2) null boolean number text
    (fun items inItems => Items.ofList_toList items ▸ array items.toList inItems)
    (fun members inMembers => Members.ofList_toList members ▸ object members.toList inMembers)
    nofun (fun _ _ first rest => List.forall_mem_cons.mpr ⟨first, rest⟩)
    nofun (fun _ _ _ first rest => List.forall_mem_cons.mpr ⟨first, rest⟩) value

theorem exists_outlinesMember {member other : String × Json}
    (inValue : ∀ value, member.2.Reorders value →
      ∃ outline next, Outlines member.2 outline ∧ Outlines value next ∧ outline.Reorders next)
    (reorders : ReordersMember member other) :
    ∃ outline next, OutlinesMember member outline ∧ OutlinesMember other next ∧
      Outline.ReordersMember outline next := by
  rcases reorders with @⟨key, value, after, reorders⟩
  rcases inValue after reorders with ⟨outline, next, ofValue, ofOther, alike⟩
  rcases exists_quoted key with ⟨parts, proper, written⟩
  exact ⟨(parts, outline), (parts, next), ⟨proper, written, ofValue⟩,
    ⟨proper, written, ofOther⟩, .value alike⟩

theorem exists_outlines (value : Json) : ∀ other, value.Reorders other →
    ∃ outline next, Outlines value outline ∧ Outlines other next ∧ outline.Reorders next := by
  induction value using induction_on with
  | null =>
      intro other reorders
      cases reorders
      exact ⟨_, _, outlines_null, outlines_null, .null⟩
  | boolean value =>
      intro other reorders
      cases reorders
      exact ⟨_, _, outlines_boolean value, outlines_boolean value, .boolean value⟩
  | number value =>
      intro other reorders
      cases reorders
      rcases exists_outlines_number value with ⟨outline, spelled, alike⟩
      exact ⟨_, _, spelled, spelled, alike⟩
  | text value =>
      intro other reorders
      cases reorders
      rcases exists_outlines_text value with ⟨parts, spelled⟩
      exact ⟨_, _, spelled, spelled, .text parts⟩
  | array items induction =>
      intro other reorders
      generalize isItems : Items.ofList items = held at reorders
      cases reorders with
      | array inItems =>
          have same := congrArg Items.toList isItems
          rw [Items.toList_ofList, Items.toList_ofList] at same
          subst same
          rcases exists_lists inItems induction with ⟨outlines, next, ofItems, ofOthers, alike⟩
          exact ⟨_, _, outlines_array ofItems, outlines_array ofOthers, .array alike⟩
  | object members induction =>
      intro other reorders
      generalize isMembers : Members.ofList members = held at reorders
      cases reorders with
      | object inMembers order =>
          have same := congrArg Members.toList isMembers
          rw [Members.toList_ofList, Members.toList_ofList] at same
          subst same
          have inMember (member : String × Json) (isMember : member ∈ members)
              (other : String × Json) (reorders : ReordersMember member other) :=
            exists_outlinesMember (induction member isMember) reorders
          rcases exists_lists_perm inMembers order inMember with
            ⟨outlines, inPlace, next, ofMembers, ofOthers, alike, moved⟩
          exact ⟨_, _, outlines_object ofMembers, outlines_object ofOthers, .object alike moved⟩

end Bulletin.Json
