import Bulletin.Proofs.Json.Reading
import Mathlib.Data.List.Forall2
/-!
# Outlines of texts

The outline of a text is the nesting of its tokens, every string and every number in it kept as it
is written. A text with blanks between the tokens of an outline is one of its spellings, whether
anything can be read from it or not: a number may be out of range, and a code may be half of a
pair. Two texts differ in the order of members alone where their outlines do.
-/

namespace Bulletin.Json

/-! ## Tokens -/

/-- What stands for a character inside a string, or for half of one. -/
inductive TextPart where
  | plain (c : Char)
  /-- A backslash and a letter. -/
  | letter (c : Char)
  /-- A backslash, the letter `u` and four hexadecimal digits. -/
  | code (first second third fourth : Char)
deriving DecidableEq, Repr

namespace TextPart

def chars : TextPart → List Char
  | .plain c => [c]
  | .letter c => ['\\', c]
  | .code first second third fourth => ['\\', 'u', first, second, third, fourth]

def IsProper : TextPart → Prop
  | .plain c => c ≠ '"' ∧ c ≠ '\\' ∧ 0x20 ≤ c.toNat
  | .letter c => c ∈ ['"', '\\', '/', 'b', 'f', 'n', 'r', 't']
  | .code first second third fourth =>
      ∀ digit ∈ [first, second, third, fourth], (Number.hexValue? digit).isSome = true

end TextPart

structure Exponent where
  mark : Char
  sign : List Char
  digits : List Char
deriving DecidableEq, Repr

def Exponent.chars (exponent : Exponent) : List Char :=
  exponent.mark :: exponent.sign ++ exponent.digits

/-- A number as it is written; no digits of a fraction stand for no fraction. -/
structure Numeral where
  negative : Bool
  whole : List Char
  fraction : List Char
  exponent : Option Exponent
deriving DecidableEq, Repr

def AreDigits (chars : List Char) : Prop :=
  ∀ c ∈ chars, c.isDigit = true

structure Exponent.IsProper (exponent : Exponent) : Prop where
  mark : exponent.mark = 'e' ∨ exponent.mark = 'E'
  sign : exponent.sign ∈ [[], ['+'], ['-']]
  digits : AreDigits exponent.digits
  nonempty : exponent.digits ≠ []

namespace Numeral

def fractionChars (numeral : Numeral) : List Char :=
  if numeral.fraction = [] then [] else '.' :: numeral.fraction

def exponentChars (numeral : Numeral) : List Char :=
  (numeral.exponent.map Exponent.chars).getD []

def unsigned (numeral : Numeral) : List Char :=
  numeral.whole ++ numeral.fractionChars ++ numeral.exponentChars

def chars (numeral : Numeral) : List Char :=
  (if numeral.negative then ['-'] else []) ++ numeral.unsigned

structure IsProper (numeral : Numeral) : Prop where
  whole : AreDigits numeral.whole
  nonempty : numeral.whole ≠ []
  /-- Zero stands before no other digit. -/
  zero : numeral.whole.head? = some '0' → numeral.whole = ['0']
  fraction : AreDigits numeral.fraction
  exponent : ∀ exponent ∈ numeral.exponent, exponent.IsProper

theorem IsProper.start {numeral : Numeral} (proper : numeral.IsProper) :
    ∃ c rest, numeral.unsigned = c :: rest ∧ c.isDigit = true := by
  rcases List.exists_cons_of_ne_nil proper.nonempty with ⟨c, digits, equal⟩
  refine ⟨c, digits ++ numeral.fractionChars ++ numeral.exponentChars, ?_, ?_⟩
  · rw [unsigned, equal]
    rfl
  · exact proper.whole c (equal ▸ List.mem_cons_self)

end Numeral

/-! ## Outlines -/

inductive Outline where
  | null
  | boolean (value : Bool)
  | number (numeral : Numeral)
  | text (parts : List TextPart)
  | array (items : List Outline)
  | object (members : List (List TextPart × Outline))

def quotedChars (parts : List TextPart) : List Char :=
  '"' :: parts.flatMap TextPart.chars ++ ['"']

theorem quotedChars_append (parts : List TextPart) (rest : List Char) :
    quotedChars parts ++ rest = '"' :: (parts.flatMap TextPart.chars ++ '"' :: rest) := by
  rw [quotedChars, List.append_assoc]
  rfl

theorem length_quotedChars (parts : List TextPart) :
    (quotedChars parts).length = (parts.flatMap TextPart.chars).length + 2 := by
  rw [quotedChars, List.length_append]
  rfl

namespace Outline

/-- Induction on an outline, for all items of an array and all members of an object at once. -/
theorem induction_on {motive : Outline → Prop} (null : motive .null)
    (boolean : ∀ value, motive (.boolean value)) (number : ∀ numeral, motive (.number numeral))
    (text : ∀ parts, motive (.text parts))
    (array : ∀ items, (∀ item ∈ items, motive item) → motive (.array items))
    (object : ∀ members, (∀ member ∈ members, motive member.2) → motive (.object members))
    (outline : Outline) : motive outline :=
  @Outline.rec motive (fun items => ∀ item ∈ items, motive item)
    (fun members => ∀ member ∈ members, motive member.2) (fun member => motive member.2)
    null boolean number text array object
    nofun (fun _ _ first rest => List.forall_mem_cons.mpr ⟨first, rest⟩)
    nofun (fun _ _ first rest => List.forall_mem_cons.mpr ⟨first, rest⟩)
    (fun _ _ inValue => inValue) outline

mutual
/-- The characters are the tokens of the outline, with blanks between them. -/
def Spells : Outline → List Char → Prop
  | .null, chars => chars = ['n', 'u', 'l', 'l']
  | .boolean true, chars => chars = ['t', 'r', 'u', 'e']
  | .boolean false, chars => chars = ['f', 'a', 'l', 's', 'e']
  | .number numeral, chars => numeral.IsProper ∧ chars = numeral.chars
  | .text parts, chars => (∀ part ∈ parts, part.IsProper) ∧ chars = quotedChars parts
  | .array items, chars => ∃ contents, SpellsItems true items contents ∧ chars = '[' :: contents
  | .object members, chars =>
      ∃ contents, SpellsMembers true members contents ∧ chars = '\x7b' :: contents

def SpellsItems (first : Bool) : List Outline → List Char → Prop
  | [], chars => ∃ gap, IsGap gap ∧ chars = gap ++ [']']
  | head :: tail, chars =>
      ∃ lead item others, IsLead first lead ∧ Spells head item ∧
        SpellsItems false tail others ∧ chars = lead ++ item ++ others

def SpellsMembers (first : Bool) : List (List TextPart × Outline) → List Char → Prop
  | [], chars => ∃ gap, IsGap gap ∧ chars = gap ++ ['\x7d']
  | (key, value) :: tail, chars =>
      ∃ lead before behind item others, IsLead first lead ∧ (∀ part ∈ key, part.IsProper) ∧
        IsGap before ∧ IsGap behind ∧ Spells value item ∧ SpellsMembers false tail others ∧
        chars = lead ++ quotedChars key ++ before ++ ':' :: behind ++ item ++ others
end

/-- A text of the outline, with blanks around it. -/
def IsOutlineOf (outline : Outline) (text : String) : Prop :=
  ∃ before chars behind, IsGap before ∧ outline.Spells chars ∧ IsGap behind ∧
    text.toList = before ++ chars ++ behind

/-! ## Where a spelling starts and goes on -/

inductive StartsWith : Outline → Char → Prop where
  | null : StartsWith .null 'n'
  | yes : StartsWith (.boolean true) 't'
  | no : StartsWith (.boolean false) 'f'
  | minus (numeral : Numeral) : StartsWith (.number numeral) '-'
  | digit (numeral : Numeral) {c : Char} (isDigit : c.isDigit = true) :
      StartsWith (.number numeral) c
  | text (parts : List TextPart) : StartsWith (.text parts) '"'
  | array (items : List Outline) : StartsWith (.array items) '['
  | object (members : List (List TextPart × Outline)) : StartsWith (.object members) '\x7b'

theorem Spells.startsWith {outline : Outline} {chars : List Char}
    (spells : outline.Spells chars) : ∃ c rest, chars = c :: rest ∧ outline.StartsWith c := by
  cases outline with
  | null =>
      rw [Spells] at spells
      exact ⟨_, _, spells, .null⟩
  | boolean value =>
      cases value
      all_goals rw [Spells] at spells
      case true => exact ⟨_, _, spells, .yes⟩
      case false => exact ⟨_, _, spells, .no⟩
  | number numeral =>
      rw [Spells] at spells
      rcases spells with ⟨proper, rfl⟩
      rcases proper.start with ⟨c, rest, equal, isDigit⟩
      rw [Numeral.chars, equal]
      split
      · exact ⟨_, _, rfl, .minus numeral⟩
      · exact ⟨c, rest, rfl, .digit numeral isDigit⟩
  | text parts =>
      rw [Spells] at spells
      exact ⟨_, _, spells.2, .text parts⟩
  | array items =>
      rw [Spells] at spells
      rcases spells with ⟨contents, -, equal⟩
      exact ⟨_, _, equal, .array items⟩
  | object members =>
      rw [Spells] at spells
      rcases spells with ⟨contents, -, equal⟩
      exact ⟨_, _, equal, .object members⟩

theorem StartsWith.isStart {outline : Outline} {c : Char} (startsWith : outline.StartsWith c) :
    IsStart c := by
  cases startsWith with
  | digit numeral isDigit => exact isStart_of_isDigit isDigit
  | _ => decide

theorem Spells.start {outline : Outline} {chars : List Char} (spells : outline.Spells chars) :
    ∃ c rest, chars = c :: rest ∧ IsStart c := by
  rcases spells.startsWith with ⟨c, rest, equal, startsWith⟩
  exact ⟨c, rest, equal, startsWith.isStart⟩

theorem SpellsItems.isBoundary {items : List Outline} {chars : List Char}
    (spells : SpellsItems false items chars) (rest : List Char) : IsBoundary (chars ++ rest) := by
  cases items with
  | nil =>
      rw [SpellsItems] at spells
      rcases spells with ⟨gap, isGap, rfl⟩
      rw [List.append_assoc]
      exact isBoundary_gap isGap (isBoundary_cons _ (by decide))
  | cons head tail =>
      rw [SpellsItems] at spells
      rcases spells with ⟨lead, item, others, isLead, -, -, rfl⟩
      rw [List.append_assoc, List.append_assoc]
      exact isBoundary_lead isLead _

theorem SpellsMembers.isBoundary {members : List (List TextPart × Outline)} {chars : List Char}
    (spells : SpellsMembers false members chars) (rest : List Char) :
    IsBoundary (chars ++ rest) := by
  cases members with
  | nil =>
      rw [SpellsMembers] at spells
      rcases spells with ⟨gap, isGap, rfl⟩
      rw [List.append_assoc]
      exact isBoundary_gap isGap (isBoundary_cons _ (by decide))
  | cons member tail =>
      rw [SpellsMembers] at spells
      rcases spells with ⟨lead, before, behind, item, others, isLead, -, -, -, -, -, rfl⟩
      simp only [List.append_assoc]
      exact isBoundary_lead isLead _

/-! ## The order of members -/

mutual
/-- The other outline is the first one but for the order of members in the objects of both. -/
inductive Reorders : Outline → Outline → Prop where
  | null : Reorders .null .null
  | boolean (value : Bool) : Reorders (.boolean value) (.boolean value)
  | number (numeral : Numeral) : Reorders (.number numeral) (.number numeral)
  | text (parts : List TextPart) : Reorders (.text parts) (.text parts)
  | array {items others : List Outline} (inItems : List.Forall₂ Reorders items others) :
      Reorders (.array items) (.array others)
  | object {members inPlace others : List (List TextPart × Outline)}
      (inMembers : List.Forall₂ ReordersMember members inPlace) (order : inPlace.Perm others) :
      Reorders (.object members) (.object others)

inductive ReordersMember : List TextPart × Outline → List TextPart × Outline → Prop where
  | value {key : List TextPart} {value other : Outline} (inValue : Reorders value other) :
      ReordersMember (key, value) (key, other)
end

theorem reorders_refl (outline : Outline) : outline.Reorders outline := by
  induction outline using Outline.induction_on with
  | null => exact .null
  | boolean value => exact .boolean value
  | number numeral => exact .number numeral
  | text parts => exact .text parts
  | array items induction => exact .array (List.forall₂_same.mpr induction)
  | object members induction =>
      have inMembers (member : List TextPart × Outline) (isMember : member ∈ members) :
          ReordersMember member member := .value (induction member isMember)
      exact .object (List.forall₂_same.mpr inMembers) (.refl members)

end Outline

end Bulletin.Json
