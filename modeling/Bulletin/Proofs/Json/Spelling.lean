import Bulletin.Json.Reader
import Bulletin.Proofs.Json.Integers
/-!
# Spellings

A spelling of a value is a text of its tokens with blanks between them. The two layouts of the
writer are spellings, and the reader finds in every spelling the value that is spelled.
-/

namespace Bulletin.Json

/-! ## Values -/

mutual
def depth : Json → Nat
  | .array items => items.depth + 1
  | .object members => members.depth + 1
  | _ => 0

def Items.depth : Json.Items → Nat
  | .nil => 0
  | .cons head tail => max head.depth tail.depth

def Members.depth : Json.Members → Nat
  | .nil => 0
  | .cons _ value tail => max value.depth tail.depth
end

mutual
def IsExact : Json → Prop
  | .number value => value.IsExact
  | .array items => items.IsExact
  | .object members => members.IsExact
  | _ => True

def Items.IsExact : Json.Items → Prop
  | .nil => True
  | .cons head tail => head.IsExact ∧ tail.IsExact

def Members.IsExact : Json.Members → Prop
  | .nil => True
  | .cons _ value tail => value.IsExact ∧ tail.IsExact
end

/-- The value can be written and read back: its numbers are exact, and it opens no more than some
number of brackets inside one another. -/
def IsWritable (brackets : Nat) (value : Json) : Prop :=
  value.IsExact ∧ value.depth ≤ brackets

theorem IsWritable.mono {least greatest : Nat} {value : Json}
    (writable : value.IsWritable least) (le : least ≤ greatest) : value.IsWritable greatest :=
  ⟨writable.1, Nat.le_trans writable.2 le⟩

theorem isWritable_text (brackets : Nat) (value : String) : IsWritable brackets (.text value) :=
  ⟨trivial, Nat.zero_le brackets⟩

theorem isWritable_boolean (brackets : Nat) (value : Bool) :
    IsWritable brackets (.boolean value) :=
  ⟨trivial, Nat.zero_le brackets⟩

theorem isWritable_list {brackets : Nat} {items : List Json}
    (writable : ∀ item ∈ items, item.IsWritable brackets) :
    IsWritable (brackets + 1) (list items) := by
  have parts : (Items.ofList items).IsExact ∧ (Items.ofList items).depth ≤ brackets := by
    induction items with
    | nil => exact ⟨trivial, Nat.zero_le brackets⟩
    | cons item items induction =>
        have first := writable item List.mem_cons_self
        have others := induction fun other member =>
          writable other (List.mem_cons_of_mem item member)
        exact ⟨⟨first.1, others.1⟩, Nat.max_le.mpr ⟨first.2, others.2⟩⟩
  exact ⟨parts.1, Nat.succ_le_succ parts.2⟩

theorem isWritable_record {brackets : Nat} {members : List (String × Json)}
    (writable : ∀ member ∈ members, member.2.IsWritable brackets) :
    IsWritable (brackets + 1) (record members) := by
  have parts : (Members.ofList members).IsExact ∧ (Members.ofList members).depth ≤ brackets := by
    induction members with
    | nil => exact ⟨trivial, Nat.zero_le brackets⟩
    | cons member members induction =>
        have first := writable member List.mem_cons_self
        have others := induction fun other later =>
          writable other (List.mem_cons_of_mem member later)
        exact ⟨⟨first.1, others.1⟩, Nat.max_le.mpr ⟨first.2, others.2⟩⟩
  exact ⟨parts.1, Nat.succ_le_succ parts.2⟩

theorem isWritable_member? {brackets : Nat} (key : String) {value? : Option Json}
    (writable : ∀ value ∈ value?, value.IsWritable brackets) :
    ∀ member ∈ member? key value?, member.2.IsWritable brackets := by
  intro member isMember
  cases value? with
  | none => cases isMember
  | some value =>
      rw [List.mem_singleton.mp isMember]
      exact writable value rfl

/-! ## Spellings -/

def IsGap (chars : List Char) : Prop :=
  ∀ c ∈ chars, isSpace c = true

/-- What stands before an item or a key: blanks, and a comma if it is not the first. -/
def IsLead (first : Bool) (chars : List Char) : Prop :=
  ∃ before behind, IsGap before ∧ IsGap behind ∧
    chars = before ++ (if first then [] else [',']) ++ behind

mutual
/-- The characters are the tokens of the value, with blanks between them. -/
def Spells : Json → List Char → Prop
  | .null, chars => chars = ['n', 'u', 'l', 'l']
  | .boolean true, chars => chars = ['t', 'r', 'u', 'e']
  | .boolean false, chars => chars = ['f', 'a', 'l', 's', 'e']
  | .number value, chars => value.IsExact ∧ chars = numberText value
  | .text value, chars => chars = stringText value
  | .array items, chars => ∃ contents, SpellsItems true items contents ∧ chars = '[' :: contents
  | .object members, chars =>
      ∃ contents, SpellsMembers true members contents ∧ chars = '\x7b' :: contents

def SpellsItems (first : Bool) : Json.Items → List Char → Prop
  | .nil, chars => ∃ gap, IsGap gap ∧ chars = gap ++ [']']
  | .cons head tail, chars =>
      ∃ lead item others, IsLead first lead ∧ Spells head item ∧
        SpellsItems false tail others ∧ chars = lead ++ item ++ others

def SpellsMembers (first : Bool) : Json.Members → List Char → Prop
  | .nil, chars => ∃ gap, IsGap gap ∧ chars = gap ++ ['\x7d']
  | .cons key value tail, chars =>
      ∃ lead before behind item others, IsLead first lead ∧ IsGap before ∧ IsGap behind ∧
        Spells value item ∧ SpellsMembers false tail others ∧
        chars = lead ++ stringText key ++ before ++ ':' :: behind ++ item ++ others
end

theorem isGap_nil : IsGap [] :=
  fun _ member => (List.not_mem_nil member).elim

theorem isGap_newLine (level : Nat) : IsGap (newLine level) := by
  intro c member
  rcases List.mem_cons.mp member with rfl | member
  · rfl
  · rw [List.eq_of_mem_replicate member]
    rfl

theorem isGap_space : IsGap [' '] := by
  intro c member
  rw [List.mem_singleton.mp member]
  rfl

theorem isLead_comma {gap : List Char} (isGap : IsGap gap) : IsLead false (',' :: gap) :=
  ⟨[], gap, isGap_nil, isGap, rfl⟩

theorem isLead_of_isGap {gap : List Char} (isGap : IsGap gap) : IsLead true gap :=
  ⟨[], gap, isGap_nil, isGap, rfl⟩

/-! ## Written values -/

mutual
theorem spells_compactChars : ∀ value : Json, value.IsExact → Spells value (compactChars value)
  | .null, _ => by rw [Spells, compactChars]
  | .boolean true, _ => by rw [Spells, compactChars]
  | .boolean false, _ => by rw [Spells, compactChars]
  | .number value, exact => by
      rw [IsExact] at exact
      rw [Spells, compactChars]
      exact ⟨exact, rfl⟩
  | .text value, _ => by rw [Spells, compactChars]
  | .array .nil, _ => by
      rw [Spells, compactChars]
      exact ⟨_, by rw [SpellsItems]; exact ⟨[], isGap_nil, rfl⟩, rfl⟩
  | .array (.cons head tail), exact => by
      rw [IsExact, Items.IsExact] at exact
      rw [Spells, compactChars]
      refine ⟨_, ?_, rfl⟩
      rw [SpellsItems]
      exact ⟨_, _, _, isLead_of_isGap isGap_nil, spells_compactChars head exact.1,
        spellsItems_compactItems tail exact.2, rfl⟩
  | .object .nil, _ => by
      rw [Spells, compactChars]
      exact ⟨_, by rw [SpellsMembers]; exact ⟨[], isGap_nil, rfl⟩, rfl⟩
  | .object (.cons key value tail), exact => by
      rw [IsExact, Members.IsExact] at exact
      rw [Spells, compactChars]
      refine ⟨_, ?_, rfl⟩
      rw [SpellsMembers]
      refine ⟨_, _, _, _, _, isLead_of_isGap isGap_nil, isGap_nil, isGap_nil,
        spells_compactChars value exact.1, spellsMembers_compactMembers tail exact.2, ?_⟩
      simp

theorem spellsItems_compactItems :
    ∀ items : Json.Items, items.IsExact → SpellsItems false items (compactItems items)
  | .nil, _ => by
      rw [SpellsItems, compactItems]
      exact ⟨[], isGap_nil, rfl⟩
  | .cons head tail, exact => by
      rw [Items.IsExact] at exact
      rw [SpellsItems, compactItems]
      exact ⟨_, _, _, isLead_comma isGap_nil, spells_compactChars head exact.1,
        spellsItems_compactItems tail exact.2, rfl⟩

theorem spellsMembers_compactMembers :
    ∀ members : Json.Members, members.IsExact → SpellsMembers false members (compactMembers members)
  | .nil, _ => by
      rw [SpellsMembers, compactMembers]
      exact ⟨[], isGap_nil, rfl⟩
  | .cons key value tail, exact => by
      rw [Members.IsExact] at exact
      rw [SpellsMembers, compactMembers]
      refine ⟨_, _, _, _, _, isLead_comma isGap_nil, isGap_nil, isGap_nil,
        spells_compactChars value exact.1, spellsMembers_compactMembers tail exact.2, ?_⟩
      simp
end

mutual
theorem spells_prettyChars :
    ∀ (level : Nat) (value : Json), value.IsExact → Spells value (prettyChars level value)
  | _, .null, _ => by rw [Spells, prettyChars]
  | _, .boolean true, _ => by rw [Spells, prettyChars]
  | _, .boolean false, _ => by rw [Spells, prettyChars]
  | _, .number value, exact => by
      rw [IsExact] at exact
      rw [Spells, prettyChars]
      exact ⟨exact, rfl⟩
  | _, .text value, _ => by rw [Spells, prettyChars]
  | _, .array .nil, _ => by
      rw [Spells, prettyChars]
      exact ⟨_, by rw [SpellsItems]; exact ⟨[], isGap_nil, rfl⟩, rfl⟩
  | level, .array (.cons head tail), exact => by
      rw [IsExact, Items.IsExact] at exact
      rw [Spells, prettyChars]
      refine ⟨_, ?_, rfl⟩
      rw [SpellsItems]
      exact ⟨_, _, _, isLead_of_isGap (isGap_newLine (level + 1)),
        spells_prettyChars (level + 1) head exact.1, spellsItems_prettyItems level tail exact.2,
        rfl⟩
  | _, .object .nil, _ => by
      rw [Spells, prettyChars]
      exact ⟨_, by rw [SpellsMembers]; exact ⟨[], isGap_nil, rfl⟩, rfl⟩
  | level, .object (.cons key value tail), exact => by
      rw [IsExact, Members.IsExact] at exact
      rw [Spells, prettyChars]
      refine ⟨_, ?_, rfl⟩
      rw [SpellsMembers]
      refine ⟨_, _, _, _, _, isLead_of_isGap (isGap_newLine (level + 1)), isGap_nil, isGap_space,
        spells_prettyChars (level + 1) value exact.1,
        spellsMembers_prettyMembers level tail exact.2, ?_⟩
      simp

theorem spellsItems_prettyItems :
    ∀ (level : Nat) (items : Json.Items), items.IsExact →
      SpellsItems false items (prettyItems level items)
  | level, .nil, _ => by
      rw [SpellsItems, prettyItems]
      exact ⟨_, isGap_newLine level, rfl⟩
  | level, .cons head tail, exact => by
      rw [Items.IsExact] at exact
      rw [SpellsItems, prettyItems]
      exact ⟨_, _, _, isLead_comma (isGap_newLine (level + 1)),
        spells_prettyChars (level + 1) head exact.1, spellsItems_prettyItems level tail exact.2,
        rfl⟩

theorem spellsMembers_prettyMembers :
    ∀ (level : Nat) (members : Json.Members), members.IsExact →
      SpellsMembers false members (prettyMembers level members)
  | level, .nil, _ => by
      rw [SpellsMembers, prettyMembers]
      exact ⟨_, isGap_newLine level, rfl⟩
  | level, .cons key value tail, exact => by
      rw [Members.IsExact] at exact
      rw [SpellsMembers, prettyMembers]
      refine ⟨_, _, _, _, _, isLead_comma (isGap_newLine (level + 1)), isGap_nil, isGap_space,
        spells_prettyChars (level + 1) value exact.1,
        spellsMembers_prettyMembers level tail exact.2, ?_⟩
      simp
end

/-! ## Where a spelling starts -/

def IsStart (c : Char) : Prop :=
  isSpace c = false ∧ c ≠ ']' ∧ c ≠ ','

instance (c : Char) : Decidable (IsStart c) :=
  inferInstanceAs (Decidable (_ ∧ _))

theorem isStart_of_isDigit {c : Char} (isDigit : c.isDigit = true) : IsStart c := by
  refine ⟨?_, ?_, ?_⟩
  · by_contra! space
    simp only [isSpace, Bool.or_eq_true, decide_eq_true_eq, ne_eq, Bool.not_eq_false] at space
    rcases space with ((rfl | rfl) | rfl) | rfl
    all_goals exact absurd isDigit (by decide)
  all_goals
    rintro rfl
    exact absurd isDigit (by decide)

theorem Spells.start {value : Json} {chars : List Char} (spells : Spells value chars) :
    ∃ c rest, chars = c :: rest ∧ IsStart c := by
  cases value with
  | null =>
      rw [Spells] at spells
      exact ⟨_, _, spells, by decide⟩
  | boolean value =>
      cases value
      all_goals
        rw [Spells] at spells
        exact ⟨_, _, spells, by decide⟩
  | number value =>
      rw [Spells] at spells
      cases value with
      | real negative magnitude => exact spells.1.elim
      | integer value =>
          rcases spells with ⟨-, rfl⟩
          rw [numberText]
          split
          · exact ⟨_, _, rfl, by decide⟩
          · rcases List.exists_cons_of_ne_nil (Number.digitChars_ne_nil value.natAbs) with
              ⟨c, rest, equal⟩
            have isDigit : c.isDigit = true :=
              Number.isDigit_of_mem_digitChars (equal ▸ List.mem_cons_self)
            exact ⟨c, rest, equal, isStart_of_isDigit isDigit⟩
  | text value =>
      rw [Spells] at spells
      exact ⟨_, _, spells, by decide⟩
  | array items =>
      rw [Spells] at spells
      rcases spells with ⟨contents, -, equal⟩
      exact ⟨_, _, equal, by decide⟩
  | object members =>
      rw [Spells] at spells
      rcases spells with ⟨contents, -, equal⟩
      exact ⟨_, _, equal, by decide⟩

end Bulletin.Json
