import Bulletin.Proofs.Json.Telling
/-!
# Formats that disregard the order of members

A steady format reads the same in two texts, and finds the same in two values, that differ in the
order of members alone. The format of a record is steady where those of its fields are and no two
fields put their values in the same place.
-/

namespace Bulletin.Json

/-! ## Outlines that can be spelled -/

namespace Outline

def IsSpellable (outline : Outline) : Prop :=
  ∃ chars, outline.Spells chars

theorem SpellsItems.isSpellable {items : List Outline} {first : Bool} {chars : List Char}
    (spells : SpellsItems first items chars) : ∀ item ∈ items, item.IsSpellable := by
  induction items generalizing first chars with
  | nil => exact fun _ isItem => (List.not_mem_nil isItem).elim
  | cons head tail induction =>
      rw [SpellsItems] at spells
      rcases spells with ⟨lead, item, others, -, spellsHead, spellsTail, -⟩
      exact List.forall_mem_cons.mpr ⟨⟨item, spellsHead⟩, induction spellsTail⟩

theorem SpellsMembers.isSpellable {members : List (List TextPart × Outline)} {first : Bool}
    {chars : List Char} (spells : SpellsMembers first members chars) :
    ∀ member ∈ members, member.2.IsSpellable := by
  induction members generalizing first chars with
  | nil => exact fun _ isMember => (List.not_mem_nil isMember).elim
  | cons member tail induction =>
      rcases member with ⟨key, value⟩
      rw [SpellsMembers] at spells
      rcases spells with ⟨_, _, _, item, _, -, -, -, -, spellsValue, spellsTail, -⟩
      exact List.forall_mem_cons.mpr ⟨⟨item, spellsValue⟩, induction spellsTail⟩

theorem IsSpellable.items {items : List Outline} (spellable : (array items).IsSpellable) :
    ∀ item ∈ items, item.IsSpellable := by
  rcases spellable with ⟨chars, spells⟩
  rw [Spells] at spells
  rcases spells with ⟨contents, spells, -⟩
  exact spells.isSpellable

theorem IsSpellable.members {members : List (List TextPart × Outline)}
    (spellable : (object members).IsSpellable) : ∀ member ∈ members, member.2.IsSpellable := by
  rcases spellable with ⟨chars, spells⟩
  rw [Spells] at spells
  rcases spells with ⟨contents, spells, -⟩
  exact spells.isSpellable

theorem Tells.exists_read {read : Allowance → Cursor → Except Fault (α × Cursor)} {depth : Nat}
    {outline : Outline} {value : α} (tells : outline.Tells read depth (some value))
    (spellable : outline.IsSpellable) :
    ∃ allowance cursor after, read allowance cursor = .ok (value, after) := by
  rcases spellable with ⟨chars, spells⟩
  have boundary : IsBoundary [] := fun _ isFirst => by cases isFirst
  rcases tells isGap_nil spells (Nat.lt_succ_self _) boundary 0 with ⟨offset, equal⟩
  exact ⟨_, _, _, equal⟩

end Outline

/-! ## Formats -/

/-- The order of members makes no difference to the format, in texts and in values. -/
structure Format.IsSteady (format : Format α) : Prop where
  ofJson : ∀ surplus {value other : Json}, value.Reorders other →
    (format.ofJson surplus value).toOption = (format.ofJson surplus other).toOption
  read : ∀ {outline other : Outline}, outline.Reorders other → outline.IsSpellable → ∀ depth,
    ∃ value?, outline.Tells format.read depth value? ∧ other.Tells format.read depth value?

namespace Format

section Scalars

variable {outline : Outline}

theorem tells_text (parts : List TextPart) (depth : Nat) :
    (Outline.text parts).Tells text.read depth (textValue? parts) := by
  intro gap chars isGap spells steps enough rest _ offset
  rw [Outline.Spells] at spells
  rcases spells with ⟨proper, rfl⟩
  rw [List.length_append, length_quotedChars] at enough
  have shorter : (parts.flatMap TextPart.chars).length < steps := by omega
  simp only [text, List.append_assoc, quotedChars_append, skipSpaces_gap isGap (c := '"') rfl]
  exact gives_stringBody proper shorter rest _

theorem tells_text_none (notText : ∀ parts, outline ≠ .text parts) (depth : Nat) :
    outline.Tells text.read depth none := by
  intro gap chars isGap spells steps _ rest _ offset
  rcases spells.startsWith with ⟨c, more, rfl, startsWith⟩
  simp only [text, List.append_assoc, List.cons_append, skipSpaces_gap isGap startsWith.isStart.1]
  split
  · rename_i heads
    cases heads
    cases startsWith with
    | text parts => exact absurd rfl (notText parts)
    | digit numeral isDigit => exact absurd isDigit (by decide)
  · exact ⟨_, rfl⟩

theorem steady_text : text.IsSteady where
  ofJson surplus value other reorders := by
    cases reorders <;> rfl
  read reorders _ depth := by
    cases reorders with
    | text parts => exact ⟨textValue? parts, tells_text parts depth, tells_text parts depth⟩
    | _ => exact ⟨none, tells_text_none (by simp) depth, tells_text_none (by simp) depth⟩

theorem tells_flag (value : Bool) (depth : Nat) :
    (Outline.boolean value).Tells flag.read depth (some value) := by
  intro gap chars isGap spells steps _ rest _ offset
  cases value
  all_goals
    rw [Outline.Spells] at spells
    simp only [spells, flag, List.append_assoc, List.cons_append,
      skipSpaces_gap isGap (c := 't') rfl, skipSpaces_gap isGap (c := 'f') rfl]
    exact ⟨_, rfl⟩

theorem tells_flag_none (notFlag : ∀ value, outline ≠ .boolean value) (depth : Nat) :
    outline.Tells flag.read depth none := by
  intro gap chars isGap spells steps _ rest _ offset
  rcases spells.startsWith with ⟨c, more, rfl, startsWith⟩
  simp only [flag, List.append_assoc, List.cons_append, skipSpaces_gap isGap startsWith.isStart.1]
  split
  · rename_i heads
    cases heads
    cases startsWith with
    | yes => exact absurd rfl (notFlag true)
    | digit numeral isDigit => exact absurd isDigit (by decide)
  · rename_i heads
    cases heads
    cases startsWith with
    | no => exact absurd rfl (notFlag false)
    | digit numeral isDigit => exact absurd isDigit (by decide)
  · exact ⟨_, rfl⟩

theorem steady_flag : flag.IsSteady where
  ofJson surplus value other reorders := by
    cases reorders <;> rfl
  read reorders _ depth := by
    cases reorders with
    | boolean value => exact ⟨some value, tells_flag value depth, tells_flag value depth⟩
    | _ => exact ⟨none, tells_flag_none (by simp) depth, tells_flag_none (by simp) depth⟩

end Scalars

/-! ### Combinators -/

section Combinators

variable {format : Format α}

theorem IsSteady.map (steady : format.IsSteady) (f : α → β) : (format.map f).IsSteady where
  ofJson surplus value other reorders := by
    simp only [Format.map, Outcome.toOption_map, steady.ofJson surplus reorders]
  read reorders spellable depth := by
    rcases steady.read reorders spellable depth with ⟨value?, tells, tellsOther⟩
    exact ⟨value?.map f, tells.map f, tellsOther.map f⟩

theorem steady_any_map {f : Json → α}
    (blind : ∀ value other, value.Reorders other → f value = f other) :
    (any.map f).IsSteady where
  ofJson surplus value other reorders := by
    simp only [Format.map, any, Outcome.map_ok, blind value other reorders]
  read {outline other} reorders _ depth := by
    rcases exists_tells_any outline other reorders depth with
      ⟨value?, other?, tells, tellsOther, alike⟩
    have same : value?.map f = other?.map f := by
      rw [Option.map_eq_bind, Option.map_eq_bind]
      exact bind_eq_of_rel alike fun value other reorders =>
        congrArg some (blind value other reorders)
    exact ⟨value?.map f, tells.map f, same ▸ tellsOther.map f⟩

theorem tells_optional_null (depth : Nat) :
    Outline.null.Tells format.optional.read depth (some none) := by
  intro gap chars isGap spells steps _ rest _ offset
  rw [Outline.Spells] at spells
  simp only [spells, optional, List.append_assoc, List.cons_append,
    skipSpaces_gap isGap (c := 'n') rfl]
  exact ⟨_, rfl⟩

theorem tells_optional {outline : Outline} {depth : Nat} {value? : Option α}
    (tells : outline.Tells format.read depth value?) (present : outline ≠ .null) :
    outline.Tells format.optional.read depth (value?.map some) := by
  intro gap chars isGap spells steps enough rest boundary offset
  rcases spells.startsWith with ⟨c, more, equal, startsWith⟩
  have shorter : ([] ++ chars).length < steps := by
    rw [List.length_append] at enough
    rw [List.nil_append]
    omega
  have given := (tells.map some) isGap_nil spells shorter boundary (offset + gap.length)
  rw [equal, List.nil_append, List.cons_append] at given
  simp only [optional, equal, List.append_assoc, List.cons_append,
    skipSpaces_gap isGap startsWith.isStart.1]
  split
  · rename_i heads
    cases heads
    cases startsWith with
    | null => exact absurd rfl present
    | digit numeral isDigit => exact absurd isDigit (by decide)
  · exact given

theorem IsSteady.optional (steady : format.IsSteady) : format.optional.IsSteady where
  ofJson surplus value other reorders := by
    have found := (steady.map some).ofJson surplus reorders
    cases reorders with
    | null => rfl
    | _ => exact found
  read reorders spellable depth := by
    rcases steady.read reorders spellable depth with ⟨value?, tells, tellsOther⟩
    cases reorders with
    | null => exact ⟨some none, tells_optional_null depth, tells_optional_null depth⟩
    | _ =>
        exact ⟨value?.map some, tells_optional tells (by simp), tells_optional tellsOther (by simp)⟩

theorem opensArray_list :
    OpensArray format.list.read fun allowance cursor =>
      (foldItems
        (fun values cursor =>
          (format.read allowance cursor).map fun (value, after) => (value :: values, after))
        allowance.steps true [] cursor).map
        fun (values, after) => (values.reverse, after) := by
  intro gap isGap allowance rest offset
  simp only [Format.list, skipSpaces_gap isGap (c := '[') rfl]

theorem tells_list_none {outline : Outline} (notArray : ∀ items, outline ≠ .array items)
    (depth : Nat) : outline.Tells format.list.read depth none := by
  intro gap chars isGap spells steps _ rest _ offset
  rcases spells.startsWith with ⟨c, more, rfl, startsWith⟩
  simp only [Format.list, List.append_assoc, List.cons_append,
    skipSpaces_gap isGap startsWith.isStart.1]
  split
  · rename_i heads
    cases heads
    cases startsWith with
    | array items => exact absurd rfl (notArray items)
    | digit numeral isDigit => exact absurd isDigit (by decide)
  · exact ⟨_, rfl⟩

theorem toOption_mapM_alike (steady : format.IsSteady) (surplus : Surplus)
    {items others : List Json} (inItems : List.Forall₂ Reorders items others) :
    (items.mapM (format.ofJson surplus)).toOption =
      (others.mapM (format.ofJson surplus)).toOption := by
  induction inItems with
  | nil => rfl
  | cons first rest induction =>
      simp only [List.mapM_cons, Outcome.toOption_bind, steady.ofJson surplus first, induction]

theorem IsSteady.exists_told (steady : format.IsSteady) {items others : List Outline}
    (inItems : List.Forall₂ Outline.Reorders items others)
    (spellable : ∀ item ∈ items, item.IsSpellable) (depth : Nat) :
    ∃ told, List.Forall₂ (Outline.Tells format.read depth) items told ∧
      List.Forall₂ (Outline.Tells format.read depth) others told := by
  have inItem (item : Outline) (isItem : item ∈ items) (other : Outline)
      (reorders : item.Reorders other) : ∃ part next,
        item.Tells format.read depth part ∧ other.Tells format.read depth next ∧ part = next := by
    rcases steady.read reorders (spellable item isItem) depth with ⟨value?, tells, tellsOther⟩
    exact ⟨value?, value?, tells, tellsOther, rfl⟩
  rcases exists_lists inItems inItem with ⟨told, after, tells, tellsOthers, equal⟩
  rw [List.forall₂_eq_eq_eq] at equal
  rcases equal with rfl
  exact ⟨told, tells, tellsOthers⟩

theorem IsSteady.list (steady : format.IsSteady) : format.list.IsSteady where
  ofJson surplus value other reorders := by
    cases reorders with
    | array inItems =>
        simp only [Format.list, Items.toList_ofList]
        exact toOption_mapM_alike steady surplus inItems
    | _ => rfl
  read reorders spellable depth := by
    cases reorders with
    | array inItems =>
        cases depth with
        | zero => exact ⟨none, tells_array_zero opensArray_list, tells_array_zero opensArray_list⟩
        | succ depth =>
            rcases steady.exists_told inItems spellable.items depth with ⟨told, tells, tellsOthers⟩
            exact ⟨_, tells_array_succ opensArray_list (tellsItems_fold tells List.reverse),
              tells_array_succ opensArray_list (tellsItems_fold tellsOthers List.reverse)⟩
    | _ => exact ⟨none, tells_list_none (by simp) depth, tells_list_none (by simp) depth⟩

end Combinators

end Format

/-! ## Whole texts -/

theorem Outline.IsOutlineOf.isSpellable {outline : Outline} {text : String}
    (isOutline : outline.IsOutlineOf text) : outline.IsSpellable := by
  rcases isOutline with ⟨before, chars, behind, -, spells, -, -⟩
  exact ⟨chars, spells⟩

theorem Format.parse_map (format : Format α) (f : α → β) (text : String) :
    (format.map f).parse text = (format.parse text).map f := by
  rw [parse, parse, readWhole, readWhole]
  simp only [Format.map]
  cases format.read (.ofText text.toList) ⟨text.toList, 0⟩ with
  | error fault => rfl
  | ok read =>
      simp only [Outcome.map_ok, Outcome.ok_bind]
      cases expectEnd read.2 <;> rfl

theorem toOption_parse {format : Format α} {outline : Outline} {value? : Option α}
    (tells : outline.Tells format.read 127 value?) {text : String}
    (isOutline : outline.IsOutlineOf text) : (format.parse text).toOption = value? := by
  rcases isOutline with ⟨before, chars, behind, isBefore, spells, isBehind, equal⟩
  have boundary : IsBoundary behind := by
    rw [← List.append_nil behind]
    exact isBoundary_gap isBehind fun _ isFirst => by cases isFirst
  have enough : (before ++ chars).length < text.toList.length + 1 := by
    simp only [equal, List.length_append]
    omega
  have ends (offset : Nat) : expectEnd ⟨behind, offset⟩ = .ok () := by
    have skipped := skipSpaces_append isBehind [] offset
    rw [List.append_nil] at skipped
    rw [expectEnd, skipped]
    rfl
  have given := tells isBefore spells enough boundary 0
  rw [Format.parse, readWhole, Allowance.ofText]
  rw [← equal] at given
  cases value? with
  | none =>
      rcases given with ⟨fault, read⟩
      simp only [read]
      rfl
  | some value =>
      rcases given with ⟨offset, read⟩
      simp only [read, Outcome.ok_bind, ends]
      rfl

/-- Texts that differ in the order of members alone are read alike. -/
theorem Format.IsSteady.parse {format : Format α} (steady : format.IsSteady)
    {outline other : Outline} (reorders : outline.Reorders other) {text otherText : String}
    (isOutline : outline.IsOutlineOf text) (isOther : other.IsOutlineOf otherText) :
    (format.parse text).toOption = (format.parse otherText).toOption := by
  rcases steady.read reorders isOutline.isSpellable 127 with ⟨value?, tells, tellsOther⟩
  rw [toOption_parse tells isOutline, toOption_parse tellsOther isOther]

end Bulletin.Json
