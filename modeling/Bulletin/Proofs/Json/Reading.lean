import Bulletin.Proofs.Json.Spelling
/-!
# Spellings read back

The reader of values reads every spelling of a value as that value, as far as brackets may be
nested, and leaves what stands behind it.
-/

namespace Bulletin.Json

/-! ## Blanks and brackets -/

theorem skipSpaces_append {gap : List Char} (isGap : IsGap gap) (rest : List Char)
    (offset : Nat) :
    Cursor.skipSpaces ⟨gap ++ rest, offset⟩ = Cursor.skipSpaces ⟨rest, offset + gap.length⟩ := by
  induction gap generalizing offset with
  | nil => rfl
  | cons c gap induction =>
      have isBlank := isGap c List.mem_cons_self
      have others := induction (fun other member => isGap other (List.mem_cons_of_mem c member))
        (offset + 1)
      rw [Cursor.skipSpaces, List.cons_append, skipSpaces, if_pos isBlank]
      rw [Cursor.skipSpaces] at others
      rw [others, List.length_cons]
      congr 2
      omega

theorem skipSpaces_cons {c : Char} (notBlank : isSpace c = false) (rest : List Char)
    (offset : Nat) : Cursor.skipSpaces ⟨c :: rest, offset⟩ = ⟨c :: rest, offset⟩ := by
  rw [Cursor.skipSpaces, skipSpaces, notBlank]
  rfl

theorem skipSpaces_gap {gap : List Char} (isGap : IsGap gap) {c : Char}
    (notBlank : isSpace c = false) (rest : List Char) (offset : Nat) :
    Cursor.skipSpaces ⟨gap ++ c :: rest, offset⟩ = ⟨c :: rest, offset + gap.length⟩ := by
  rw [skipSpaces_append isGap, skipSpaces_cons notBlank]

theorem nextItem_lead {first : Bool} {lead : List Char} (isLead : IsLead first lead) {c : Char}
    (isStart : IsStart c) (rest : List Char) (offset : Nat) :
    ∃ behind, nextItem first ⟨lead ++ c :: rest, offset⟩ = .ok (true, ⟨c :: rest, behind⟩) := by
  rcases isStart with ⟨notBlank, notClosing, notComma⟩
  rcases isLead with ⟨before, after, isBefore, isAfter, rfl⟩
  cases first with
  | true =>
      refine ⟨offset + before.length + after.length, ?_⟩
      rw [nextItem, if_pos rfl, List.append_nil, List.append_assoc, skipSpaces_append isBefore,
        skipSpaces_gap isAfter notBlank]
      simp only
      split <;> simp_all
  | false =>
      refine ⟨offset + before.length + 1 + after.length, ?_⟩
      rw [nextItem, if_neg Bool.false_ne_true, List.append_assoc, List.append_assoc,
        List.singleton_append, skipSpaces_gap isBefore rfl]
      simp only [Cursor.next, Bool.false_eq_true, if_false, skipSpaces_gap isAfter notBlank]
      split <;> simp_all

theorem nextItem_closing {gap : List Char} (isGap : IsGap gap) (first : Bool) (rest : List Char)
    (offset : Nat) :
    nextItem first ⟨gap ++ ']' :: rest, offset⟩ =
      .ok (false, ⟨']' :: rest, offset + gap.length⟩) := by
  rw [nextItem, skipSpaces_gap isGap rfl]
  rfl

theorem nextKey_lead {first : Bool} {lead : List Char} (isLead : IsLead first lead)
    (key : String) {steps : Nat} (enough : key.toList.length < steps) (rest : List Char)
    (offset : Nat) :
    Reads (nextKey steps first ⟨lead ++ (stringText key ++ rest), offset⟩) (some key) rest := by
  have body (behind : Nat) := reads_stringBody key.toList [] rest behind enough
  have quoted : stringText key ++ rest =
      '"' :: (key.toList.flatMap charText ++ '"' :: rest) := by
    simp [stringText]
  rcases isLead with ⟨before, after, isBefore, isAfter, rfl⟩
  rw [quoted, nextKey]
  cases first with
  | true =>
      rcases body (offset + before.length + after.length + 1) with ⟨behind, equal⟩
      rw [if_pos rfl, List.append_nil, List.append_assoc, skipSpaces_append isBefore,
        skipSpaces_gap isAfter rfl]
      simp [Cursor.next, equal, Reads]
  | false =>
      rcases body (offset + before.length + 1 + after.length + 1) with ⟨behind, equal⟩
      rw [if_neg Bool.false_ne_true, List.append_assoc, List.append_assoc,
        List.singleton_append, skipSpaces_gap isBefore rfl]
      simp [Cursor.next, skipSpaces_gap isAfter (c := '"') rfl, equal, Reads]

theorem nextKey_closing {gap : List Char} (isGap : IsGap gap) (steps : Nat) (first : Bool)
    (rest : List Char) (offset : Nat) :
    nextKey steps first ⟨gap ++ '\x7d' :: rest, offset⟩ =
      .ok (none, ⟨'\x7d' :: rest, offset + gap.length⟩) := by
  rw [nextKey, skipSpaces_gap isGap rfl]
  rfl

theorem colon_gap {gap : List Char} (isGap : IsGap gap) (rest : List Char) (offset : Nat) :
    colon ⟨gap ++ ':' :: rest, offset⟩ = .ok ⟨rest, offset + gap.length + 1⟩ := by
  rw [colon, skipSpaces_gap isGap rfl]
  rfl

/-! ## What can stand behind an item -/

theorem isBoundary_cons {c : Char} (rest : List Char)
    (ends : c.isDigit = false ∧ c ≠ '.' ∧ c ≠ 'e' ∧ c ≠ 'E') : IsBoundary (c :: rest) := by
  intro other member
  cases member
  exact ends

theorem isBoundary_gap {gap : List Char} (isGap : IsGap gap) {rest : List Char}
    (boundary : IsBoundary rest) : IsBoundary (gap ++ rest) := by
  cases gap with
  | nil => exact boundary
  | cons c gap =>
      apply isBoundary_cons
      have isBlank := isGap c List.mem_cons_self
      simp only [isSpace, Bool.or_eq_true, decide_eq_true_eq] at isBlank
      rcases isBlank with ((rfl | rfl) | rfl) | rfl
      all_goals decide

theorem isBoundary_lead {lead : List Char} (isLead : IsLead false lead) (rest : List Char) :
    IsBoundary (lead ++ rest) := by
  rcases isLead with ⟨before, after, isBefore, -, rfl⟩
  rw [List.append_assoc, List.append_assoc]
  exact isBoundary_gap isBefore (isBoundary_cons _ (by decide))

theorem SpellsItems.isBoundary {items : Json.Items} {chars : List Char}
    (spells : SpellsItems false items chars) (rest : List Char) : IsBoundary (chars ++ rest) := by
  cases items with
  | nil =>
      rw [SpellsItems] at spells
      rcases spells with ⟨gap, isGap, rfl⟩
      rw [List.append_assoc]
      exact isBoundary_gap isGap (isBoundary_cons _ (by decide))
  | cons head tail =>
      rw [SpellsItems] at spells
      rcases spells with ⟨lead, item, others, isLead, -, -, rfl⟩
      rw [List.append_assoc, List.append_assoc]
      exact isBoundary_lead isLead _

theorem SpellsMembers.isBoundary {members : Json.Members} {chars : List Char}
    (spells : SpellsMembers false members chars) (rest : List Char) :
    IsBoundary (chars ++ rest) := by
  cases members with
  | nil =>
      rw [SpellsMembers] at spells
      rcases spells with ⟨gap, isGap, rfl⟩
      rw [List.append_assoc]
      exact isBoundary_gap isGap (isBoundary_cons _ (by decide))
  | cons key value tail =>
      rw [SpellsMembers] at spells
      rcases spells with ⟨lead, before, behind, item, others, isLead, -, -, -, -, rfl⟩
      simp only [List.append_assoc]
      exact isBoundary_lead isLead _

/-! ## Values -/

theorem readValue_gap {gap : List Char} (isGap : IsGap gap) {c : Char}
    (notBlank : isSpace c = false) (steps depth : Nat) (rest : List Char) (offset : Nat) :
    readValue steps depth ⟨gap ++ c :: rest, offset⟩ =
      readValue steps depth ⟨c :: rest, offset + gap.length⟩ := by
  rw [readValue, skipSpaces_gap isGap notBlank, readValue, skipSpaces_cons notBlank]

theorem closeArray_cons (rest : List Char) (offset : Nat) :
    closeArray ⟨']' :: rest, offset⟩ = .ok ⟨rest, offset + 1⟩ := rfl

theorem closeObject_cons (rest : List Char) (offset : Nat) :
    closeObject ⟨'\x7d' :: rest, offset⟩ = .ok ⟨rest, offset + 1⟩ := rfl

theorem Items.ofList_toList : ∀ items : Json.Items, Items.ofList items.toList = items
  | .nil => rfl
  | .cons head tail => by rw [toList, ofList, ofList_toList tail]

theorem Members.ofList_toList : ∀ members : Json.Members, Members.ofList members.toList = members
  | .nil => rfl
  | .cons key value tail => by rw [toList, ofList, ofList_toList tail]

theorem reads_readValue_number (steps depth : Nat) {value : Json.Number} (exact : value.IsExact)
    {rest : List Char} (boundary : IsBoundary rest) (offset : Nat) :
    Reads (readValue steps depth ⟨numberText value ++ rest, offset⟩) (.number value) rest := by
  cases value with
  | real negative magnitude => exact exact.elim
  | integer value =>
      rw [numberText]
      split
      case isTrue negative =>
        have reads := reads_unsignedNumber_of_negative (offset + 1) negative exact.1 boundary
        rw [List.singleton_append, List.cons_append, readValue, skipSpaces_cons rfl]
        exact reads.map Json.number
      case isFalse notNegative =>
        have reads := reads_unsignedNumber offset (by omega) exact.2 boundary
        rcases List.exists_cons_of_ne_nil (Number.digitChars_ne_nil value.natAbs) with
          ⟨c, more, equal⟩
        have isDigit : c.isDigit = true :=
          Number.isDigit_of_mem_digitChars (equal ▸ List.mem_cons_self)
        rw [equal] at reads
        rw [List.nil_append, equal, List.cons_append, readValue,
          skipSpaces_cons (isStart_of_isDigit isDigit).1]
        simp only
        split
        case h_9 heads =>
          rcases List.cons.inj heads with ⟨rfl, -⟩
          rw [if_pos isDigit]
          exact reads.map Json.number
        all_goals simp_all

-- The induction is on the value. `steps` bounds every text inside it and stays as it is, while
-- `depth` goes down with the brackets and `count` with the items.
mutual
theorem reads_readValue (steps : Nat) :
    ∀ (value : Json) (chars : List Char), Spells value chars → ∀ {depth : Nat},
      value.depth ≤ depth → chars.length < steps → ∀ {rest : List Char}, IsBoundary rest →
        ∀ offset, Reads (readValue steps depth ⟨chars ++ rest, offset⟩) value rest
  | .null, chars, spells, depth, _, _, rest, _, offset => by
      rw [Spells] at spells
      subst spells
      rw [List.cons_append, readValue, skipSpaces_cons rfl]
      exact ⟨_, rfl⟩
  | .boolean true, chars, spells, depth, _, _, rest, _, offset => by
      rw [Spells] at spells
      subst spells
      rw [List.cons_append, readValue, skipSpaces_cons rfl]
      exact ⟨_, rfl⟩
  | .boolean false, chars, spells, depth, _, _, rest, _, offset => by
      rw [Spells] at spells
      subst spells
      rw [List.cons_append, readValue, skipSpaces_cons rfl]
      exact ⟨_, rfl⟩
  | .number value, chars, spells, depth, _, _, rest, boundary, offset => by
      rw [Spells] at spells
      rcases spells with ⟨exact, rfl⟩
      exact reads_readValue_number steps depth exact boundary offset
  | .text value, chars, spells, depth, _, enough, rest, _, offset => by
      rw [Spells] at spells
      subst spells
      have length := length_le_length_stringText value
      have short : value.toList.length < steps := by omega
      have reads := reads_stringBody value.toList [] rest (offset + 1) short
      rw [List.reverse_nil, List.nil_append, String.ofList_toList] at reads
      rw [stringText, List.cons_append, List.cons_append, List.append_assoc,
        List.singleton_append, readValue, skipSpaces_cons rfl]
      exact reads.map Json.text
  | .array items, chars, spells, depth, nested, enough, rest, boundary, offset => by
      rw [Spells] at spells
      rcases spells with ⟨contents, spells, rfl⟩
      rw [Json.depth] at nested
      rcases Nat.exists_eq_add_one_of_ne_zero (by omega : depth ≠ 0) with ⟨depth, rfl⟩
      rw [List.length_cons] at enough
      have inner : items.depth ≤ depth := by omega
      have short : contents.length < steps := by omega
      rcases reads_foldItems steps items true contents spells inner short steps (Nat.le_of_lt short)
        [] rest (offset + 1) with ⟨behind, equal⟩
      rw [List.cons_append, readValue, skipSpaces_cons rfl]
      simp only [Cursor.next, equal, settle, List.append_nil, closeArray_cons, Outcome.map_ok,
        List.reverse_reverse, list, Items.ofList_toList]
      exact ⟨_, rfl⟩
  | .object members, chars, spells, depth, nested, enough, rest, boundary, offset => by
      rw [Spells] at spells
      rcases spells with ⟨contents, spells, rfl⟩
      rw [Json.depth] at nested
      rcases Nat.exists_eq_add_one_of_ne_zero (by omega : depth ≠ 0) with ⟨depth, rfl⟩
      rw [List.length_cons] at enough
      have inner : members.depth ≤ depth := by omega
      have short : contents.length < steps := by omega
      rcases reads_foldMembers steps members true contents spells inner short steps
        (Nat.le_of_lt short) [] rest (offset + 1) with ⟨behind, equal⟩
      rw [List.cons_append, readValue, skipSpaces_cons rfl]
      simp only [Cursor.next, equal, settle, List.append_nil, closeObject_cons, Outcome.map_ok,
        List.reverse_reverse, record, Members.ofList_toList]
      exact ⟨_, rfl⟩

theorem reads_foldItems (steps : Nat) :
    ∀ (items : Json.Items) (first : Bool) (chars : List Char), SpellsItems first items chars →
      ∀ {depth : Nat}, items.depth ≤ depth → chars.length < steps → ∀ count,
        chars.length ≤ count → ∀ (state : List Json) (rest : List Char) offset,
        Reads
          (foldItems
            (fun items cursor =>
              (readValue steps depth cursor).map fun (value, after) => (value :: items, after))
            count first state ⟨chars ++ rest, offset⟩)
          (items.toList.reverse ++ state) (']' :: rest)
  | .nil, first, chars, spells, depth, _, _, count, enough, state, rest, offset => by
      rw [SpellsItems] at spells
      rcases spells with ⟨gap, isGap, rfl⟩
      rw [List.length_append, List.length_singleton] at enough
      rcases Nat.exists_eq_add_one_of_ne_zero (by omega : count ≠ 0) with ⟨count, rfl⟩
      rw [foldItems, List.append_assoc, List.singleton_append, nextItem_closing isGap]
      exact ⟨_, rfl⟩
  | .cons head tail, first, chars, spells, depth, nested, fits, count, enough, state, rest,
      offset => by
      rw [SpellsItems] at spells
      rcases spells with ⟨lead, item, others, isLead, spellsHead, spellsTail, rfl⟩
      rcases spellsHead.start with ⟨c, more, startsWith, isStart⟩
      rw [Items.depth] at nested
      simp only [List.length_append] at fits enough
      have nonempty : 0 < item.length := by
        rw [startsWith]
        exact Nat.zero_lt_succ _
      rcases Nat.exists_eq_add_one_of_ne_zero (by omega : count ≠ 0) with ⟨count, rfl⟩
      rcases nextItem_lead isLead isStart (more ++ (others ++ rest)) offset with ⟨atItem, next⟩
      rw [← List.cons_append, ← startsWith] at next
      have nestedHead : head.depth ≤ depth := by omega
      have nestedTail : tail.depth ≤ depth := by omega
      rcases reads_readValue steps head item spellsHead nestedHead (by omega)
        (spellsTail.isBoundary rest) atItem with ⟨behind, readHead⟩
      have readTail := reads_foldItems steps tail false others spellsTail nestedTail (by omega)
        count (by omega) (head :: state) rest behind
      rw [foldItems, List.append_assoc, List.append_assoc, next]
      simp only [Outcome.ok_bind, if_true, readHead, Outcome.map_ok]
      rw [Items.toList, List.reverse_cons, List.append_assoc]
      exact readTail

theorem reads_foldMembers (steps : Nat) :
    ∀ (members : Json.Members) (first : Bool) (chars : List Char),
      SpellsMembers first members chars → ∀ {depth : Nat}, members.depth ≤ depth →
        chars.length < steps → ∀ count, chars.length ≤ count →
        ∀ (state : List (String × Json)) (rest : List Char) offset,
        Reads
          (foldMembers
            (fun members key cursor => do
              let (value, after) ← readValue steps depth (← colon cursor)
              .ok ((key, value) :: members, after))
            steps count first state ⟨chars ++ rest, offset⟩)
          (members.toList.reverse ++ state) ('\x7d' :: rest)
  | .nil, first, chars, spells, depth, _, _, count, enough, state, rest, offset => by
      rw [SpellsMembers] at spells
      rcases spells with ⟨gap, isGap, rfl⟩
      rw [List.length_append, List.length_singleton] at enough
      rcases Nat.exists_eq_add_one_of_ne_zero (by omega : count ≠ 0) with ⟨count, rfl⟩
      rw [foldMembers, List.append_assoc, List.singleton_append, nextKey_closing isGap]
      exact ⟨_, rfl⟩
  | .cons key value tail, first, chars, spells, depth, nested, fits, count, enough, state, rest,
      offset => by
      rw [SpellsMembers] at spells
      rcases spells with
        ⟨lead, before, behindColon, item, others, isLead, isBefore, isBehind, spellsValue,
          spellsTail, rfl⟩
      rcases spellsValue.start with ⟨c, more, startsWith, isStart⟩
      have length := length_le_length_stringText key
      rw [Members.depth] at nested
      simp only [List.length_append, List.length_cons] at fits enough
      rcases Nat.exists_eq_add_one_of_ne_zero (by omega : count ≠ 0) with ⟨count, rfl⟩
      have shortKey : key.toList.length < steps := by omega
      rcases nextKey_lead isLead key shortKey
        (before ++ ':' :: (behindColon ++ (item ++ (others ++ rest)))) offset with ⟨atColon, next⟩
      have nestedValue : value.depth ≤ depth := by omega
      have nestedTail : tail.depth ≤ depth := by omega
      rcases reads_readValue steps value item spellsValue nestedValue (by omega)
        (spellsTail.isBoundary rest) (atColon + before.length + 1 + behindColon.length) with
        ⟨behind, readHead⟩
      have readTail := reads_foldMembers steps tail false others spellsTail nestedTail (by omega)
        count (by omega) ((key, value) :: state) rest behind
      rw [foldMembers]
      simp only [List.append_assoc, List.cons_append] at next ⊢
      rw [next]
      rw [startsWith, List.cons_append] at readHead ⊢
      rw [← readValue_gap isBehind isStart.1] at readHead
      simp only [Outcome.ok_bind, colon_gap isBefore, readHead]
      rw [Members.toList, List.reverse_cons, List.append_assoc]
      exact readTail
end

/-! ## Whole texts -/

theorem expectEnd_nil (offset : Nat) : expectEnd ⟨[], offset⟩ = .ok () := rfl

theorem readWhole_eq_ok {read : Allowance → Cursor → Except Fault (α × Cursor)} {text : String}
    {value : α} :
    readWhole read text = .ok value ↔
      ∃ after, read (.ofText text.toList) ⟨text.toList, 0⟩ = .ok (value, after) ∧
        expectEnd after = .ok () := by
  rw [readWhole, Outcome.mapError_eq_ok, Outcome.bind_eq_ok]
  constructor
  · rintro ⟨⟨found, after⟩, isRead, rest⟩
    rcases Outcome.bind_eq_ok.mp rest with ⟨_, ended, equal⟩
    cases equal
    exact ⟨after, isRead, ended⟩
  · rintro ⟨after, isRead, ended⟩
    exact ⟨(value, after), isRead, Outcome.bind_eq_ok.mpr ⟨(), ended, rfl⟩⟩

/-- Whatever is read where a spelling stands is read from a text of nothing else. -/
theorem readWhole_of_spells {read : Allowance → Cursor → Except Fault (α × Cursor)}
    {value : Json} {chars : List Char} (spells : Spells value chars) (nested : value.depth ≤ 127)
    {result : α}
    (reads : ∀ allowance cursor after,
      readValue allowance.steps allowance.depth cursor = .ok (value, after) →
        read allowance cursor = .ok (result, after)) :
    readWhole read (String.ofList chars) = .ok result := by
  have boundary : IsBoundary [] := fun _ member => by cases member
  rcases reads_readValue (chars.length + 1) value chars spells nested (Nat.lt_succ_self _)
    boundary 0 with ⟨behind, equal⟩
  rw [List.append_nil] at equal
  have found := reads (.ofText chars) ⟨chars, 0⟩ ⟨[], behind⟩ equal
  rw [readWhole]
  simp only [String.toList_ofList, found, Outcome.ok_bind, expectEnd_nil, Outcome.pure_eq_ok]
  rfl

end Bulletin.Json
