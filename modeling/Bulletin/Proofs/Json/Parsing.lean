import Bulletin.Proofs.Json.Lexing
/-!
# Values that were read

Whatever is read as a value, or passed over as one, is the text of an outline: the blanks, the
tokens and the brackets stand where the grammar has them, and what stands behind it is left. While
a value is passed over, the brackets that are open tell what has to follow.
-/

namespace Bulletin.Json

/-! ## What stands in a text -/

/-- Blanks and a value stand before the rest. -/
def HasValue (chars rest : List Char) : Prop :=
  ∃ gap item outline, IsGap gap ∧ Outline.Spells outline item ∧ chars = gap ++ item ++ rest

def HasItems (first : Bool) (chars rest : List Char) : Prop :=
  ∃ items contents, Outline.SpellsItems first items contents ∧ chars = contents ++ rest

def HasMembers (first : Bool) (chars rest : List Char) : Prop :=
  ∃ members contents, Outline.SpellsMembers first members contents ∧ chars = contents ++ rest

theorem HasValue.of_gap {gap chars rest : List Char} (isGap : IsGap gap)
    (hasValue : HasValue chars rest) : HasValue (gap ++ chars) rest := by
  rcases hasValue with ⟨behind, item, outline, isBehind, spells, rfl⟩
  have both : IsGap (gap ++ behind) := List.forall_mem_append.mpr ⟨isGap, isBehind⟩
  exact ⟨gap ++ behind, item, outline, both, spells, by simp⟩

theorem hasValue_of_spells {outline : Outline} {item : List Char} (spells : outline.Spells item)
    (rest : List Char) : HasValue (item ++ rest) rest :=
  ⟨[], item, outline, isGap_nil, spells, rfl⟩

theorem hasValue_text {parts : List TextPart} (proper : ∀ part ∈ parts, part.IsProper)
    (rest : List Char) :
    HasValue ('"' :: (parts.flatMap TextPart.chars ++ '"' :: rest)) rest := by
  have spells : (Outline.text parts).Spells (quotedChars parts) := by
    rw [Outline.Spells]
    exact ⟨proper, rfl⟩
  rw [← quotedChars_append]
  exact hasValue_of_spells spells rest

theorem hasValue_number {numeral : Numeral} (proper : numeral.IsProper) (rest : List Char) :
    HasValue (numeral.chars ++ rest) rest := by
  have spells : (Outline.number numeral).Spells numeral.chars := by
    rw [Outline.Spells]
    exact ⟨proper, rfl⟩
  exact hasValue_of_spells spells rest

theorem HasItems.hasValue {chars rest : List Char} (hasItems : HasItems true chars rest) :
    HasValue ('[' :: chars) rest := by
  rcases hasItems with ⟨items, contents, spells, rfl⟩
  have spellsArray : (Outline.array items).Spells ('[' :: contents) := by
    rw [Outline.Spells]
    exact ⟨contents, spells, rfl⟩
  exact hasValue_of_spells spellsArray rest

theorem HasMembers.hasValue {chars rest : List Char} (hasMembers : HasMembers true chars rest) :
    HasValue ('\x7b' :: chars) rest := by
  rcases hasMembers with ⟨members, contents, spells, rfl⟩
  have spellsObject : (Outline.object members).Spells ('\x7b' :: contents) := by
    rw [Outline.Spells]
    exact ⟨contents, spells, rfl⟩
  exact hasValue_of_spells spellsObject rest

theorem hasItems_nil {gap : List Char} (isGap : IsGap gap) (first : Bool) (rest : List Char) :
    HasItems first (gap ++ ']' :: rest) rest := by
  have spells : Outline.SpellsItems first [] (gap ++ [']']) := by
    rw [Outline.SpellsItems]
    exact ⟨gap, isGap, rfl⟩
  exact ⟨[], gap ++ [']'], spells, by simp⟩

theorem hasMembers_nil {gap : List Char} (isGap : IsGap gap) (first : Bool) (rest : List Char) :
    HasMembers first (gap ++ '\x7d' :: rest) rest := by
  have spells : Outline.SpellsMembers first [] (gap ++ ['\x7d']) := by
    rw [Outline.SpellsMembers]
    exact ⟨gap, isGap, rfl⟩
  exact ⟨[], gap ++ ['\x7d'], spells, by simp⟩

theorem isLead_append {first : Bool} {lead gap : List Char} (isLead : IsLead first lead)
    (isGap : IsGap gap) : IsLead first (lead ++ gap) := by
  rcases isLead with ⟨before, behind, isBefore, isBehind, rfl⟩
  have both : IsGap (behind ++ gap) := List.forall_mem_append.mpr ⟨isBehind, isGap⟩
  exact ⟨before, behind ++ gap, isBefore, both, by simp⟩

theorem isLead_gap_append {first : Bool} {gap lead : List Char} (isGap : IsGap gap)
    (isLead : IsLead first lead) : IsLead first (gap ++ lead) := by
  rcases isLead with ⟨before, behind, isBefore, isBehind, rfl⟩
  have both : IsGap (gap ++ before) := List.forall_mem_append.mpr ⟨isGap, isBefore⟩
  exact ⟨gap ++ before, behind, both, isBehind, by simp⟩

theorem HasValue.items {first : Bool} {lead chars others rest : List Char}
    (isLead : IsLead first lead) (hasValue : HasValue chars others)
    (hasItems : HasItems false others rest) : HasItems first (lead ++ chars) rest := by
  rcases hasValue with ⟨gap, item, outline, isGap, spells, rfl⟩
  rcases hasItems with ⟨items, contents, spellsItems, rfl⟩
  have spellsAll : Outline.SpellsItems first (outline :: items)
      (lead ++ gap ++ item ++ contents) := by
    rw [Outline.SpellsItems]
    exact ⟨lead ++ gap, item, contents, isLead_append isLead isGap, spells, spellsItems, rfl⟩
  exact ⟨outline :: items, _, spellsAll, by simp⟩

theorem HasValue.members {first : Bool} {lead before chars others rest : List Char}
    {key : List TextPart} (isLead : IsLead first lead) (proper : ∀ part ∈ key, part.IsProper)
    (isBefore : IsGap before) (hasValue : HasValue chars others)
    (hasMembers : HasMembers false others rest) :
    HasMembers first (lead ++ (quotedChars key ++ (before ++ ':' :: chars))) rest := by
  rcases hasValue with ⟨gap, item, outline, isGap, spells, rfl⟩
  rcases hasMembers with ⟨members, contents, spellsMembers, rfl⟩
  have spellsAll : Outline.SpellsMembers first ((key, outline) :: members)
      (lead ++ quotedChars key ++ before ++ ':' :: gap ++ item ++ contents) := by
    rw [Outline.SpellsMembers]
    exact ⟨lead, before, gap, item, contents, isLead, proper, isBefore, isGap, spells,
      spellsMembers, rfl⟩
  exact ⟨(key, outline) :: members, _, spellsAll, by simp⟩

/-! ## Brackets -/

section Brackets

variable {first : Bool} {cursor here behind after : Cursor}

theorem exists_lead_of_nextItem (next : nextItem first cursor = .ok (true, here)) :
    ∃ lead, IsLead first lead ∧ cursor.rest = lead ++ here.rest := by
  rcases exists_gap cursor with ⟨gap, isGap, equal⟩
  rw [nextItem] at next
  dsimp only at next
  split at next
  · cases next
  · cases next
  · rename_i rest startsWith
    split at next
    · rename_i isFirst
      cases next
      exact ⟨gap, isFirst ▸ isLead_of_isGap isGap, equal⟩
    · rename_i notFirst
      rcases exists_gap (cursor.skipSpaces.next rest) with ⟨more, isMore, equalMore⟩
      have isLead : IsLead first (gap ++ [','] ++ more) :=
        ⟨gap, more, isGap, isMore, by rw [if_neg notFirst]⟩
      have written : cursor.rest =
          gap ++ [','] ++ more ++ (cursor.skipSpaces.next rest).skipSpaces.rest := by
        rw [equal, startsWith, List.append_assoc, ← equalMore]
        simp [Cursor.next]
      split at next
      · cases next
      · cases next
      · cases next
        exact ⟨_, isLead, written⟩
  · split at next
    · rename_i isFirst
      cases next
      exact ⟨gap, isFirst ▸ isLead_of_isGap isGap, equal⟩
    · cases next

theorem exists_gap_of_nextItem (next : nextItem first cursor = .ok (false, here)) :
    ∃ gap, IsGap gap ∧ cursor.rest = gap ++ here.rest := by
  have stays : here = cursor.skipSpaces := by
    rw [nextItem] at next
    dsimp only at next
    split at next
    · cases next
    · cases next
      rfl
    · split at next
      · cases next
      · split at next <;> cases next
    · split at next <;> cases next
  rw [stays]
  exact exists_gap cursor

theorem hasItems_of_closeArray (closed : closeArray cursor = .ok after) (first : Bool) :
    HasItems first cursor.rest after.rest := by
  rcases exists_gap cursor with ⟨gap, isGap, equal⟩
  rw [closeArray] at closed
  dsimp only at closed
  split at closed
  · cases closed
  · rename_i rest startsWith
    cases closed
    rw [equal, startsWith]
    exact hasItems_nil isGap first _
  · split at closed <;> cases closed
  · cases closed

theorem exists_key_of_nextKey {steps : Nat} {key : String}
    (next : nextKey steps first cursor = .ok (some key, here)) :
    ∃ lead parts, IsLead first lead ∧ (∀ part ∈ parts, part.IsProper) ∧
      cursor.rest = lead ++ (quotedChars parts ++ here.rest) := by
  rcases exists_gap cursor with ⟨gap, isGap, equal⟩
  rw [nextKey] at next
  dsimp only at next
  split at next
  · cases next
  · cases next
  · rename_i c rest notClosing startsWith
    split at next
    · cases next
    · rename_i isComma
      have atQuote : ∃ lead, IsLead first lead ∧ cursor.rest = lead ++
          (if first = true then cursor.skipSpaces
            else (cursor.skipSpaces.next rest).skipSpaces).rest := by
        by_cases isFirst : first = true
        case pos =>
          rw [if_pos isFirst]
          exact ⟨gap, isFirst ▸ isLead_of_isGap isGap, equal⟩
        case neg =>
          have comma : c = ',' := by simpa [isFirst] using isComma
          rcases exists_gap (cursor.skipSpaces.next rest) with ⟨more, isMore, equalMore⟩
          rw [if_neg isFirst]
          refine ⟨gap ++ [','] ++ more,
            ⟨gap, more, isGap, isMore, by rw [if_neg isFirst]⟩, ?_⟩
          rw [equal, startsWith, comma, List.append_assoc, ← equalMore]
          simp [Cursor.next]
      rcases atQuote with ⟨lead, isLead, written⟩
      split at next
      · cases next
      · rename_i more quote
        rcases Outcome.bind_eq_ok.mp next with ⟨⟨name, reached⟩, body, done⟩
        cases done
        rcases exists_parts_of_stringBody body with ⟨parts, proper, equalParts⟩
        have inQuotes : more = parts.flatMap TextPart.chars ++ '"' :: reached.rest := equalParts
        refine ⟨lead, parts, isLead, proper, ?_⟩
        rw [written, quote, quotedChars_append, inQuotes]
      · cases next
      · cases next

theorem exists_gap_of_nextKey {steps : Nat} (next : nextKey steps first cursor = .ok (none, here)) :
    ∃ gap, IsGap gap ∧ cursor.rest = gap ++ here.rest := by
  have stays : here = cursor.skipSpaces := by
    rw [nextKey] at next
    dsimp only at next
    split at next
    · cases next
    · cases next
      rfl
    · split at next
      · cases next
      · split at next
        · cases next
        · rcases Outcome.bind_eq_ok.mp next with ⟨⟨name, reached⟩, body, done⟩
          cases done
        · cases next
        · cases next
  rw [stays]
  exact exists_gap cursor

theorem exists_gap_of_colon (found : colon cursor = .ok after) :
    ∃ gap, IsGap gap ∧ cursor.rest = gap ++ ':' :: after.rest := by
  rcases exists_gap cursor with ⟨gap, isGap, equal⟩
  rw [colon] at found
  split at found
  · cases found
  · rename_i rest startsWith
    cases found
    exact ⟨gap, isGap, by rw [equal, startsWith]; rfl⟩
  · cases found

theorem hasMembers_of_closeObject {gap : List Char} (isGap : IsGap gap)
    (closed : closeObject cursor = .ok after) (first : Bool) :
    HasMembers first (gap ++ cursor.rest) after.rest := by
  rcases exists_gap cursor with ⟨more, isMore, equal⟩
  have both : IsGap (gap ++ more) := List.forall_mem_append.mpr ⟨isGap, isMore⟩
  rw [closeObject] at closed
  split at closed
  · cases closed
  · rename_i rest startsWith
    cases closed
    rw [equal, startsWith, ← List.append_assoc]
    exact hasMembers_nil both first _
  · cases closed
  · cases closed

theorem HasItems.of_gap {gap chars rest : List Char} (isGap : IsGap gap)
    (hasItems : HasItems first chars rest) : HasItems first (gap ++ chars) rest := by
  rcases hasItems with ⟨items, contents, spells, rfl⟩
  cases items with
  | nil =>
      rw [Outline.SpellsItems] at spells
      rcases spells with ⟨more, isMore, rfl⟩
      have both : IsGap (gap ++ more) := List.forall_mem_append.mpr ⟨isGap, isMore⟩
      have closes := hasItems_nil both first rest
      simpa using closes
  | cons head tail =>
      rw [Outline.SpellsItems] at spells
      rcases spells with ⟨lead, item, others, isLead, spellsHead, spellsTail, rfl⟩
      have hasOthers : HasItems false (others ++ rest) rest := ⟨tail, others, spellsTail, rfl⟩
      have hasHead := hasValue_of_spells spellsHead (others ++ rest)
      have hasAll := hasHead.items (isLead_gap_append isGap isLead) hasOthers
      simpa using hasAll

theorem hasItems_of_foldItems {item : σ → Cursor → Except Fault (σ × Cursor)}
    (reads : ∀ state cursor next after, item state cursor = .ok (next, after) →
      HasValue cursor.rest after.rest)
    {count : Nat} {state last : σ}
    (folded : foldItems item count first state cursor = .ok (last, behind))
    (closed : closeArray behind = .ok after) : HasItems first cursor.rest after.rest := by
  induction count generalizing first state cursor with
  | zero => cases folded
  | succ count induction =>
      rw [foldItems] at folded
      rcases Outcome.bind_eq_ok.mp folded with ⟨⟨more, here⟩, next, folded⟩
      cases more with
      | false =>
          cases folded
          rcases exists_gap_of_nextItem next with ⟨gap, isGap, equal⟩
          rw [equal]
          exact (hasItems_of_closeArray closed first).of_gap isGap
      | true =>
          rcases Outcome.bind_eq_ok.mp folded with ⟨⟨state, reached⟩, taken, folded⟩
          rcases exists_lead_of_nextItem next with ⟨lead, isLead, equal⟩
          rw [equal]
          exact (reads _ _ _ _ taken).items isLead (induction folded)

def HasMemberValue (chars rest : List Char) : Prop :=
  ∃ gap others, IsGap gap ∧ HasValue others rest ∧ chars = gap ++ ':' :: others

theorem hasMemberValue_of_colon {rest : List Char} (found : colon cursor = .ok here)
    (hasValue : HasValue here.rest rest) : HasMemberValue cursor.rest rest := by
  rcases exists_gap_of_colon found with ⟨gap, isGap, equal⟩
  exact ⟨gap, here.rest, isGap, hasValue, equal⟩

theorem hasMembers_of_foldMembers {member : σ → String → Cursor → Except Fault (σ × Cursor)}
    (reads : ∀ state key cursor next after, member state key cursor = .ok (next, after) →
      HasMemberValue cursor.rest after.rest)
    {keySteps count : Nat} {state last : σ}
    (folded : foldMembers member keySteps count first state cursor = .ok (last, behind))
    (closed : closeObject behind = .ok after) : HasMembers first cursor.rest after.rest := by
  induction count generalizing first state cursor with
  | zero => cases folded
  | succ count induction =>
      rw [foldMembers] at folded
      rcases Outcome.bind_eq_ok.mp folded with ⟨⟨key?, here⟩, next, folded⟩
      cases key? with
      | none =>
          cases folded
          rcases exists_gap_of_nextKey next with ⟨gap, isGap, equal⟩
          rw [equal]
          exact hasMembers_of_closeObject isGap closed first
      | some key =>
          rcases Outcome.bind_eq_ok.mp folded with ⟨⟨state, reached⟩, taken, folded⟩
          rcases exists_key_of_nextKey next with ⟨lead, parts, isLead, proper, equal⟩
          rcases reads _ _ _ _ _ taken with ⟨gap, others, isGap, hasValue, equalOthers⟩
          rw [equal, equalOthers]
          exact hasValue.members isLead proper isGap (induction folded)

end Brackets

/-! ## Values -/

theorem hasValue_of_expectLetters {outline : Outline} {c : Char} {letters rest : List Char}
    {cursor after : Cursor} (spells : outline.Spells (c :: letters))
    (startsWith : cursor.rest = c :: rest)
    (read : expectLetters letters (cursor.next rest) = .ok after) :
    HasValue cursor.rest after.rest := by
  have ends : rest = letters ++ after.rest := eq_of_expectLetters read
  rw [startsWith, ends]
  exact hasValue_of_spells spells after.rest

theorem spells_null : Outline.null.Spells ['n', 'u', 'l', 'l'] := by
  rw [Outline.Spells]

theorem spells_true : (Outline.boolean true).Spells ['t', 'r', 'u', 'e'] := by
  rw [Outline.Spells]

theorem spells_false : (Outline.boolean false).Spells ['f', 'a', 'l', 's', 'e'] := by
  rw [Outline.Spells]

theorem hasValue_of_parts {chars rest : List Char}
    (quoted : ∃ parts : List TextPart, (∀ part ∈ parts, part.IsProper) ∧
      chars = parts.flatMap TextPart.chars ++ '"' :: rest) : HasValue ('"' :: chars) rest := by
  rcases quoted with ⟨parts, proper, rfl⟩
  exact hasValue_text proper rest

theorem hasValue_of_numeral {chars rest : List Char}
    (number : ∃ numeral : Numeral, numeral.IsProper ∧ numeral.negative = false ∧
      chars = numeral.unsigned ++ rest) : HasValue chars rest := by
  rcases number with ⟨numeral, proper, positive, rfl⟩
  have written : numeral.chars = numeral.unsigned := by simp [Numeral.chars, positive]
  exact written ▸ hasValue_number proper rest

theorem hasValue_of_negative {chars rest : List Char}
    (number : ∃ numeral : Numeral, numeral.IsProper ∧ numeral.negative = true ∧
      chars = numeral.unsigned ++ rest) : HasValue ('-' :: chars) rest := by
  rcases number with ⟨numeral, proper, negative, rfl⟩
  have written : numeral.chars = '-' :: numeral.unsigned := by simp [Numeral.chars, negative]
  have hasNumber := hasValue_number proper rest
  rwa [written] at hasNumber

theorem hasValue_of_skipSpaces {cursor : Cursor} {rest : List Char}
    (hasValue : HasValue cursor.skipSpaces.rest rest) : HasValue cursor.rest rest := by
  rcases exists_gap cursor with ⟨gap, isGap, equal⟩
  rw [equal]
  exact hasValue.of_gap isGap

theorem hasValue_of_readValue {steps depth : Nat} {cursor after : Cursor} {value : Json}
    (read : readValue steps depth cursor = .ok (value, after)) :
    HasValue cursor.rest after.rest := by
  apply hasValue_of_skipSpaces
  rw [readValue] at read
  generalize cursor.skipSpaces = here at read ⊢
  split at read
  case h_1 => cases read
  case h_2 rest startsWith =>
    rcases Outcome.map_eq_ok.mp read with ⟨reached, letters, equal⟩
    cases equal
    exact hasValue_of_expectLetters spells_null startsWith letters
  case h_3 rest startsWith =>
    rcases Outcome.map_eq_ok.mp read with ⟨reached, letters, equal⟩
    cases equal
    exact hasValue_of_expectLetters spells_true startsWith letters
  case h_4 rest startsWith =>
    rcases Outcome.map_eq_ok.mp read with ⟨reached, letters, equal⟩
    cases equal
    exact hasValue_of_expectLetters spells_false startsWith letters
  case h_5 rest startsWith =>
    rcases Outcome.map_eq_ok.mp read with ⟨⟨number, reached⟩, digits, equal⟩
    cases equal
    rw [startsWith]
    exact hasValue_of_negative (exists_numeral_of_unsignedNumber digits)
  case h_6 rest startsWith =>
    rcases Outcome.map_eq_ok.mp read with ⟨⟨text, reached⟩, body, equal⟩
    cases equal
    rw [startsWith]
    exact hasValue_of_parts (exists_parts_of_stringBody body)
  case h_7 rest startsWith =>
    split at read
    case h_1 => cases read
    case h_2 inner =>
      rcases Outcome.map_eq_ok.mp read with ⟨⟨items, reached⟩, settled, equal⟩
      cases equal
      rcases settle_eq_ok.mp settled with ⟨behind, folded, closed⟩
      rw [startsWith]
      refine HasItems.hasValue (hasItems_of_foldItems ?_ folded closed)
      intro state cursor next after taken
      rcases Outcome.map_eq_ok.mp taken with ⟨⟨item, reached⟩, readItem, equal⟩
      cases equal
      exact hasValue_of_readValue readItem
  case h_8 rest startsWith =>
    split at read
    case h_1 => cases read
    case h_2 inner =>
      rcases Outcome.map_eq_ok.mp read with ⟨⟨members, reached⟩, settled, equal⟩
      cases equal
      rcases settle_eq_ok.mp settled with ⟨behind, folded, closed⟩
      rw [startsWith]
      refine HasMembers.hasValue (hasMembers_of_foldMembers ?_ folded closed)
      intro state key cursor next after taken
      rcases Outcome.bind_eq_ok.mp taken with ⟨atValue, isColon, taken⟩
      rcases Outcome.bind_eq_ok.mp taken with ⟨⟨item, reached⟩, readItem, equal⟩
      cases equal
      exact hasMemberValue_of_colon isColon (hasValue_of_readValue readItem)
  case h_9 c rest _ _ _ _ _ _ _ startsWith =>
    split at read
    case isTrue isDigit =>
      rcases Outcome.map_eq_ok.mp read with ⟨⟨number, reached⟩, digits, equal⟩
      cases equal
      exact hasValue_of_numeral (exists_numeral_of_unsignedNumber digits)
    case isFalse => cases read

/-! ## Values passed over -/

def HasKey (chars rest : List Char) : Prop :=
  ∃ gap parts before, IsGap gap ∧ (∀ part ∈ parts, TextPart.IsProper part) ∧ IsGap before ∧
    chars = gap ++ (quotedChars parts ++ (before ++ ':' :: rest))

def HasContents : Bracket → (first : Bool) → List Char → List Char → Prop
  | .square => HasItems
  | .curly => HasMembers

def Closes : List Bracket → List Char → List Char → Prop
  | [], chars, rest => chars = rest
  | bracket :: opened, chars, rest =>
      ∃ others, HasContents bracket false chars others ∧ Closes opened others rest

/-- What is due comes, and then all that is open is closed. -/
def Meets : Due → List Bracket → List Char → List Char → Prop
  | .value, opened, chars, rest => ∃ others, HasValue chars others ∧ Closes opened others rest
  | .separator, opened, chars, rest => Closes opened chars rest
  | .contents, [], chars, rest => chars = rest
  | .contents, bracket :: opened, chars, rest =>
      ∃ others, HasContents bracket true chars others ∧ Closes opened others rest
  | .key, opened, chars, rest =>
      ∃ others behind, HasKey chars others ∧ HasValue others behind ∧ Closes opened behind rest

def Bracket.opening : Bracket → Char
  | .square => '['
  | .curly => '\x7b'

theorem HasContents.hasValue {bracket : Bracket} {chars rest : List Char}
    (hasContents : HasContents bracket true chars rest) :
    HasValue (bracket.opening :: chars) rest := by
  cases bracket with
  | square => exact HasItems.hasValue hasContents
  | curly => exact HasMembers.hasValue hasContents

theorem hasContents_closed {bracket : Bracket} {c : Char} (isClosed : bracket.isClosedBy c = true)
    {gap : List Char} (isGap : IsGap gap) (first : Bool) (rest : List Char) :
    HasContents bracket first (gap ++ c :: rest) rest := by
  cases bracket with
  | square =>
      cases of_decide_eq_true isClosed
      exact hasItems_nil isGap first rest
  | curly =>
      cases of_decide_eq_true isClosed
      exact hasMembers_nil isGap first rest

theorem Meets.contents {bracket : Bracket} {opened : List Bracket} {first : Bool}
    {lead chars rest : List Char}
    (met : Meets (dueBehindComma bracket) (bracket :: opened) chars rest)
    (isLead : IsLead first lead) :
    ∃ others, HasContents bracket first (lead ++ chars) others ∧ Closes opened others rest := by
  cases bracket with
  | square =>
      rcases met with ⟨behind, hasValue, others, hasItems, closes⟩
      exact ⟨others, hasValue.items isLead hasItems, closes⟩
  | curly =>
      rcases met with ⟨atValue, behind, hasKey, hasValue, others, hasMembers, closes⟩
      rcases hasKey with ⟨gap, parts, before, isGap, proper, isBefore, rfl⟩
      refine ⟨others, ?_, closes⟩
      rw [← List.append_assoc]
      exact hasValue.members (isLead_append isLead isGap) proper isBefore hasMembers

theorem hasKey_of_skipKey {limit : Nat} {cursor after : Cursor}
    (skipped : skipKey limit cursor.skipSpaces = .ok after) : HasKey cursor.rest after.rest := by
  rcases exists_gap cursor with ⟨gap, isGap, equal⟩
  rw [skipKey] at skipped
  split at skipped
  · cases skipped
  · rename_i rest startsWith
    rcases Outcome.bind_eq_ok.mp skipped with ⟨behind, quoted, skipped⟩
    rcases exists_parts_of_skipString quoted with ⟨parts, proper, equalParts⟩
    have inQuotes : rest = parts.flatMap TextPart.chars ++ '"' :: behind.rest := equalParts
    rcases exists_gap behind with ⟨before, isBefore, equalBefore⟩
    dsimp only at skipped
    split at skipped
    · cases skipped
    · rename_i more atColon
      cases skipped
      refine ⟨gap, parts, before, isGap, proper, isBefore, ?_⟩
      rw [equal, startsWith, inQuotes, quotedChars_append, equalBefore, atColon]
      rfl
    · cases skipped
  · cases skipped

theorem hasValue_of_skipStart {limit : Nat} {cursor after : Cursor}
    (skipped : skipStart limit cursor = .ok (none, after)) : HasValue cursor.rest after.rest := by
  rw [skipStart] at skipped
  split at skipped
  case h_1 => cases skipped
  case h_2 rest startsWith =>
    rcases Outcome.map_eq_ok.mp skipped with ⟨reached, letters, equal⟩
    cases equal
    exact hasValue_of_expectLetters spells_null startsWith letters
  case h_3 rest startsWith =>
    rcases Outcome.map_eq_ok.mp skipped with ⟨reached, letters, equal⟩
    cases equal
    exact hasValue_of_expectLetters spells_true startsWith letters
  case h_4 rest startsWith =>
    rcases Outcome.map_eq_ok.mp skipped with ⟨reached, letters, equal⟩
    cases equal
    exact hasValue_of_expectLetters spells_false startsWith letters
  case h_5 rest startsWith =>
    rcases Outcome.map_eq_ok.mp skipped with ⟨reached, digits, equal⟩
    cases equal
    rw [startsWith]
    exact hasValue_of_negative (exists_numeral_of_skipNumber digits true)
  case h_6 rest startsWith =>
    rcases Outcome.map_eq_ok.mp skipped with ⟨reached, body, equal⟩
    cases equal
    rw [startsWith]
    exact hasValue_of_parts (exists_parts_of_skipString body)
  case h_7 => cases skipped
  case h_8 => cases skipped
  case h_9 =>
    split at skipped
    · rcases Outcome.map_eq_ok.mp skipped with ⟨reached, digits, equal⟩
      cases equal
      exact hasValue_of_numeral (exists_numeral_of_skipNumber digits false)
    · cases skipped

theorem eq_of_skipStart {limit : Nat} {cursor after : Cursor} {bracket : Bracket}
    (opened : skipStart limit cursor = .ok (some bracket, after)) :
    cursor.rest = bracket.opening :: after.rest := by
  rw [skipStart] at opened
  split at opened
  case h_7 rest startsWith =>
    cases opened
    exact startsWith
  case h_8 rest startsWith =>
    cases opened
    exact startsWith
  case h_1 => cases opened
  case h_9 =>
    split at opened
    · rcases Outcome.map_eq_ok.mp opened with ⟨reached, -, equal⟩
      cases equal
    · cases opened
  all_goals
    rcases Outcome.map_eq_ok.mp opened with ⟨reached, -, equal⟩
    cases equal

/-- Whatever is due and open, all of it comes in a text that is skipped. -/
theorem meets_of_skipUntilClosed {limit steps : Nat} {due : Due} {opened : List Bracket}
    {cursor after : Cursor} (skipped : skipUntilClosed limit steps due opened cursor = .ok after) :
    Meets due opened cursor.rest after.rest := by
  induction steps generalizing due opened cursor with
  | zero => cases skipped
  | succ steps induction =>
      cases due with
      | value =>
          rw [skipUntilClosed] at skipped
          rcases Outcome.bind_eq_ok.mp skipped with ⟨⟨bracket?, here⟩, started, skipped⟩
          cases bracket? with
          | none =>
              exact ⟨here.rest, hasValue_of_skipSpaces (hasValue_of_skipStart started),
                induction skipped⟩
          | some bracket =>
              have opens := eq_of_skipStart started
              rcases induction skipped with ⟨others, hasContents, closes⟩
              refine ⟨others, hasValue_of_skipSpaces ?_, closes⟩
              rw [opens]
              exact hasContents.hasValue
      | separator =>
          cases opened with
          | nil =>
              cases skipped
              rfl
          | cons bracket opened =>
              rcases exists_gap cursor with ⟨gap, isGap, equal⟩
              rw [skipUntilClosed] at skipped
              split at skipped
              · cases skipped
              · rename_i c rest startsWith
                rw [equal, startsWith]
                split at skipped
                · rename_i isComma
                  have isLead : IsLead false (gap ++ [',']) := ⟨gap, [], isGap, isGap_nil, by simp⟩
                  rw [isComma, List.append_cons]
                  exact (induction skipped).contents isLead
                · split at skipped
                  · rename_i isClosed
                    exact ⟨rest, hasContents_closed isClosed isGap false rest, induction skipped⟩
                  · cases skipped
      | contents =>
          cases opened with
          | nil =>
              cases skipped
              rfl
          | cons bracket opened =>
              rcases exists_gap cursor with ⟨gap, isGap, equal⟩
              rw [skipUntilClosed] at skipped
              split at skipped
              · cases skipped
              · rename_i c rest startsWith
                rw [equal]
                split at skipped
                · rename_i isClosed
                  rw [startsWith]
                  exact ⟨rest, hasContents_closed isClosed isGap true rest, induction skipped⟩
                · exact (induction skipped).contents (isLead_of_isGap isGap)
      | key =>
          rw [skipUntilClosed] at skipped
          rcases Outcome.bind_eq_ok.mp skipped with ⟨here, passed, skipped⟩
          rcases induction skipped with ⟨others, hasValue, closes⟩
          exact ⟨here.rest, others, hasKey_of_skipKey passed, hasValue, closes⟩

/-- What is skipped is a value. -/
theorem hasValue_of_skipValue {steps : Nat} {cursor after : Cursor}
    (skipped : skipValue steps cursor = .ok after) : HasValue cursor.rest after.rest := by
  rcases meets_of_skipUntilClosed skipped with ⟨others, hasValue, closed⟩
  exact closed ▸ hasValue

end Bulletin.Json
