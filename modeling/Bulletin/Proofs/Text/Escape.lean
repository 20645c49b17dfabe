import Bulletin.Text.Basic
/-!
# Escaped text

Escaped text holds none of the characters by which tags and attribute values begin and end in a
page. It is turned back by replacing its entities from left to right, so nothing is lost in it, and
it holds no ampersand but those with which entities begin.
-/

namespace Bulletin.Text

/-! ## Markup characters -/

def isMarkup (c : Char) : Bool :=
  c = '<' || c = '>' || c = '"' || c = '\''

def markupOf (text : String) : List Char :=
  text.toList.filter isMarkup

theorem isMarkup_of_mem_escapeChar {c written : Char} (member : written ∈ escapeChar c) :
    isMarkup written = false := by
  unfold escapeChar at member
  split at member
  case h_6 notAmpersand notLess notGreater notQuote notApostrophe =>
    rw [List.mem_singleton] at member
    subst member
    simp only [isMarkup, Bool.or_eq_false_iff, decide_eq_false_iff_not]
    exact ⟨⟨⟨notLess, notGreater⟩, notQuote⟩, notApostrophe⟩
  all_goals
    simp only [List.mem_cons, List.not_mem_nil, or_false] at member
    rcases member with rfl | rfl | rfl | rfl | rfl | rfl <;> rfl

theorem isMarkup_of_mem_escapeChars {chars : List Char} {written : Char}
    (member : written ∈ escapeChars chars) : isMarkup written = false := by
  rcases List.mem_flatMap.mp member with ⟨c, _, member⟩
  exact isMarkup_of_mem_escapeChar member

theorem isMarkup_of_mem_escape {text : String} {written : Char}
    (member : written ∈ (escape text).toList) : isMarkup written = false := by
  rw [escape, String.toList_ofList] at member
  exact isMarkup_of_mem_escapeChars member

@[simp] theorem markupOf_escape (text : String) : markupOf (escape text) = [] := by
  rw [markupOf, List.filter_eq_nil_iff]
  intro written member
  rw [isMarkup_of_mem_escape member]
  exact Bool.false_ne_true

/-! ## Entities -/

def entities : List String := ["&amp;", "&lt;", "&gt;", "&quot;", "&#39;"]

/-- The characters with the entities among them replaced, from left to right. -/
def unescapeChars : List Char → List Char
  | '&' :: 'a' :: 'm' :: 'p' :: ';' :: rest => '&' :: unescapeChars rest
  | '&' :: 'l' :: 't' :: ';' :: rest => '<' :: unescapeChars rest
  | '&' :: 'g' :: 't' :: ';' :: rest => '>' :: unescapeChars rest
  | '&' :: 'q' :: 'u' :: 'o' :: 't' :: ';' :: rest => '"' :: unescapeChars rest
  | '&' :: '#' :: '3' :: '9' :: ';' :: rest => '\'' :: unescapeChars rest
  | c :: rest => c :: unescapeChars rest
  | [] => []

def unescape (text : String) : String :=
  String.ofList (unescapeChars text.toList)

example : unescape "&amp;lt; & &#39;" = "&lt; & '" := by decide +kernel

theorem unescapeChars_cons {c : Char} (notAmpersand : c ≠ '&') (rest : List Char) :
    unescapeChars (c :: rest) = c :: unescapeChars rest := by
  rw [unescapeChars]
  all_goals
    intro _ same
    exact absurd same notAmpersand

theorem unescapeChars_escapeChar (c : Char) (rest : List Char) :
    unescapeChars (escapeChar c ++ rest) = c :: unescapeChars rest := by
  unfold escapeChar
  split
  case h_6 notAmpersand _ _ _ _ => exact unescapeChars_cons notAmpersand rest
  all_goals rfl

@[simp] theorem unescapeChars_escapeChars (chars : List Char) :
    unescapeChars (escapeChars chars) = chars := by
  induction chars with
  | nil => rfl
  | cons c chars induction =>
      rw [escapeChars, List.flatMap_cons, unescapeChars_escapeChar, ← escapeChars, induction]

theorem escapeChars_injective : Function.Injective escapeChars :=
  Function.LeftInverse.injective unescapeChars_escapeChars

theorem escape_injective : Function.Injective escape := by
  intro left right same
  have chars := escapeChars_injective (String.ofList_injective same)
  exact String.toList_inj.mp chars

/-! ## Ampersands -/

theorem ofList_escapeChar_mem_entities {c : Char} (member : '&' ∈ escapeChar c) :
    String.ofList (escapeChar c) ∈ entities := by
  unfold escapeChar at member ⊢
  split at member
  case h_6 notAmpersand _ _ _ _ => exact absurd (List.mem_singleton.mp member).symm notAmpersand
  all_goals decide

theorem ampersand_not_mem_tail_escapeChar (c : Char) : '&' ∉ (escapeChar c).tail := by
  unfold escapeChar
  split
  all_goals simp

theorem exists_entity_of_ampersand {chars before after : List Char}
    (split : escapeChars chars = before ++ '&' :: after) :
    ∃ entity ∈ entities, entity.toList <+: '&' :: after := by
  induction chars generalizing before with
  | nil => simp [escapeChars] at split
  | cons c chars induction =>
      rw [escapeChars, List.flatMap_cons, ← escapeChars, List.append_eq_append_iff] at split
      rcases split with ⟨rest, rfl, inRest⟩ | ⟨rest, inChar, ends⟩
      · exact induction inRest
      · cases rest with
        | nil =>
            have begins : escapeChars chars = [] ++ '&' :: after := ends.symm
            exact induction begins
        | cons first rest =>
            obtain ⟨rfl, rfl⟩ := List.cons.inj ends
            have isEntity := ofList_escapeChar_mem_entities
              (inChar ▸ List.mem_append_right before List.mem_cons_self)
            cases before with
            | nil =>
                refine ⟨_, isEntity, ?_⟩
                rw [String.toList_ofList, inChar]
                exact List.prefix_append _ _
            | cons head before =>
                -- An entity holds no ampersand but the one it begins with.
                have behind := ampersand_not_mem_tail_escapeChar c
                rw [inChar] at behind
                exact absurd (List.mem_append_right before List.mem_cons_self) behind

/-- Escaped text holds no character that ends a text node or a quoted attribute, and no ampersand
but those of its entities. Read back, it is the text that was escaped, so no two texts are escaped
alike, even where one holds entities itself. Texts are escaped piece by piece. -/
theorem escape_lossless (text : String) :
    (∀ c ∈ ['<', '>', '"', '\''], c ∉ (escape text).toList) ∧
      (∀ before after, (escape text).toList = before ++ '&' :: after →
        ∃ entity ∈ entities, entity.toList <+: '&' :: after) ∧
      unescape (escape text) = text ∧
      (∀ other, escape other = escape text ↔ other = text) ∧
      ∀ other, escape (text ++ other) = escape text ++ escape other := by
  refine ⟨?_, ?_, ?_, fun other => escape_injective.eq_iff, ?_⟩
  · have markup : ∀ c ∈ ['<', '>', '"', '\''], isMarkup c = true := by simp [isMarkup]
    intro c isOne member
    exact Bool.false_ne_true ((isMarkup_of_mem_escape member).symm.trans (markup c isOne))
  · intro before after split
    rw [escape, String.toList_ofList] at split
    exact exists_entity_of_ampersand split
  · rw [unescape, escape, String.toList_ofList, unescapeChars_escapeChars, String.ofList_toList]
  · intro other
    rw [escape, escape, escape, String.toList_append, escapeChars_append, String.ofList_append]

end Bulletin.Text
