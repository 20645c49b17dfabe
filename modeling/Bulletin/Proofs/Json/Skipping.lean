import Bulletin.Proofs.Json.Tokens
/-!
# Values passed over

Whatever is written as an outline can be skipped, whether anything can be read from it or not: a
value leaves the brackets that are open as they are, and takes four steps a character at most.
-/

namespace Bulletin.Json

/-! ## Strings -/

theorem skipEscape_letter {c : Char} (proper : (TextPart.letter c).IsProper) (rest : List Char)
    (offset : Nat) : skipEscape ⟨c :: rest, offset⟩ = .ok ⟨rest, offset + 1⟩ := by
  simp only [TextPart.IsProper, List.mem_cons, List.not_mem_nil, or_false] at proper
  rcases proper with rfl | rfl | rfl | rfl | rfl | rfl | rfl | rfl
  all_goals rfl

theorem skipString_parts {parts : List TextPart} (proper : ∀ part ∈ parts, part.IsProper)
    {limit : Nat} (enough : (parts.flatMap TextPart.chars).length < limit) (rest : List Char)
    (offset : Nat) :
    ∃ behind, skipString limit ⟨parts.flatMap TextPart.chars ++ '"' :: rest, offset⟩ =
      .ok ⟨rest, behind⟩ := by
  induction parts generalizing limit offset with
  | nil =>
      rcases Nat.exists_eq_add_one_of_ne_zero (by omega : limit ≠ 0) with ⟨limit, rfl⟩
      exact ⟨_, rfl⟩
  | cons part parts induction =>
      rcases Nat.exists_eq_add_one_of_ne_zero (by omega : limit ≠ 0) with ⟨limit, rfl⟩
      rcases List.forall_mem_cons.mp proper with ⟨isProper, others⟩
      rw [List.flatMap_cons, List.length_append] at enough
      rw [List.flatMap_cons, List.append_assoc]
      cases part with
      | plain c =>
          rcases isProper with ⟨notQuote, notBackslash, printable⟩
          simp only [TextPart.chars, List.length_singleton] at enough
          rw [TextPart.chars, List.singleton_append, skipString]
          split
          case h_1 equal => cases equal
          case h_2 equal => exact absurd (List.cons.inj equal).1 notQuote
          case h_3 equal => exact absurd (List.cons.inj equal).1 notBackslash
          case h_4 equal =>
            cases equal
            rw [if_neg (by omega)]
            exact induction others (by omega) _
      | letter c =>
          simp only [TextPart.chars, List.length_cons] at enough
          simp only [TextPart.chars, List.cons_append, List.nil_append, skipString, Cursor.next,
            skipEscape_letter isProper, Outcome.ok_bind]
          exact induction others (by omega) _
      | code first second third fourth =>
          rcases exists_hexCode isProper with ⟨code, reads⟩
          simp only [TextPart.chars, List.length_cons] at enough
          simp only [TextPart.chars, List.cons_append, List.nil_append, skipString, Cursor.next,
            skipEscape, reads, Outcome.map_ok, Outcome.ok_bind]
          exact induction others (by omega) _

/-! ## Numbers -/

theorem skipDigits_digits {digits rest : List Char} (areDigits : AreDigits digits)
    (noDigit : NoDigit rest) (offset : Nat) :
    skipDigits ⟨digits ++ rest, offset⟩ = ⟨rest, offset + digits.length⟩ := by
  rw [skipDigits, span_digits areDigits noDigit]

def unsignedExponent (cursor : Cursor) : Except Fault Cursor :=
  match cursor.rest with
  | [] => .error (cursor.fault .invalidNumber 0)
  | c :: _ =>
      if c.isDigit then .ok (skipDigits cursor) else .error (cursor.fault .invalidNumber 1)

def skipSign (cursor : Cursor) : Cursor :=
  match cursor.rest with
  | '+' :: rest => cursor.next rest
  | '-' :: rest => cursor.next rest
  | _ => cursor

theorem skipSign_eq (cursor : Cursor) : skipSign cursor = (exponentSign cursor).2 := by
  rw [skipSign, exponentSign]
  split <;> simp_all

theorem skipExponent_eq (cursor : Cursor) :
    skipExponent cursor = unsignedExponent (exponentSign cursor).2 :=
  congrArg unsignedExponent (skipSign_eq cursor)

theorem skipExponent_digits {exponent : Exponent} (proper : exponent.IsProper) {rest : List Char}
    (noDigit : NoDigit rest) (offset : Nat) :
    ∃ behind, skipExponent ⟨exponent.sign ++ exponent.digits ++ rest, offset⟩ =
      .ok ⟨rest, behind⟩ := by
  rcases List.exists_cons_of_ne_nil proper.nonempty with ⟨c, more, equal⟩
  have isDigit : c.isDigit = true := proper.digits c (equal ▸ List.mem_cons_self)
  rcases exponentSign_sign proper with ⟨below, signed⟩
  rcases signed rest offset with ⟨behind, isSigned⟩
  have run := skipDigits_digits proper.digits noDigit behind
  rw [skipExponent_eq, List.append_assoc, isSigned]
  rw [equal] at run ⊢
  rw [List.cons_append] at run ⊢
  dsimp only [unsignedExponent]
  rw [if_pos isDigit, run]
  exact ⟨_, rfl⟩

theorem skipExponent?_chars {numeral : Numeral} (proper : numeral.IsProper) {rest : List Char}
    (boundary : IsBoundary rest) (offset : Nat) :
    ∃ behind, skipExponent? ⟨numeral.exponentChars ++ rest, offset⟩ = .ok ⟨rest, behind⟩ := by
  rw [Numeral.exponentChars]
  cases has : numeral.exponent with
  | none =>
      rw [skipExponent?]
      split
      · rename_i more startsWith
        cases show rest = 'e' :: more from startsWith
        exact absurd rfl (boundary 'e' rfl).2.2.1
      · rename_i more startsWith
        cases show rest = 'E' :: more from startsWith
        exact absurd rfl (boundary 'E' rfl).2.2.2
      · exact ⟨offset, rfl⟩
  | some exponent =>
      have isProper := proper.exponent exponent has
      have chars : (Option.map Exponent.chars (some exponent)).getD [] ++ rest =
          exponent.mark :: (exponent.sign ++ exponent.digits ++ rest) := rfl
      rw [chars]
      rcases isProper.mark with isMark | isMark
      all_goals
        rw [isMark]
        exact skipExponent_digits isProper boundary.noDigit (offset + 1)

def skipFraction (cursor : Cursor) : Except Fault Cursor :=
  match cursor.rest with
  | '.' :: rest =>
      if (skipDigits (cursor.next rest)).offset = (cursor.next rest).offset then
        .error ((cursor.next rest).aheadFault .invalidNumber)
      else skipExponent? (skipDigits (cursor.next rest))
  | _ => skipExponent? cursor

theorem skipNumber_whole {numeral : Numeral} (proper : numeral.IsProper) {rest : List Char}
    (noDigit : NoDigit rest) (offset : Nat) :
    skipNumber ⟨numeral.whole ++ rest, offset⟩ =
      skipFraction ⟨rest, offset + numeral.whole.length⟩ := by
  have run := skipDigits_digits proper.whole noDigit offset
  rcases proper.exists_whole noDigit with ⟨c, more, equal, isDigit, single⟩
  rw [equal] at run ⊢
  rw [List.cons_append] at run ⊢
  rw [skipNumber]
  simp only [isDigit, Bool.not_true, Bool.false_eq_true, if_false, single, run]
  rfl

theorem skipNumber_unsigned {numeral : Numeral} (proper : numeral.IsProper) {rest : List Char}
    (boundary : IsBoundary rest) (offset : Nat) :
    ∃ behind, skipNumber ⟨numeral.unsigned ++ rest, offset⟩ = .ok ⟨rest, behind⟩ := by
  simp only [Numeral.unsigned, Numeral.fractionChars, List.append_assoc]
  by_cases none : numeral.fraction = []
  · have noPoint : ∀ more, numeral.exponentChars ++ rest ≠ '.' :: more := by
      intro more startsWith
      exact (head?_exponentChars proper boundary '.' (startsWith ▸ rfl)).2 rfl
    rw [if_pos none, List.nil_append,
      skipNumber_whole proper (noDigit_exponentChars proper boundary), skipFraction]
    split
    · rename_i more startsWith
      exact absurd startsWith (noPoint more)
    · exact skipExponent?_chars proper boundary _
  · have noDigit := noDigit_exponentChars proper boundary
    rw [if_neg none, skipNumber_whole proper (fun c isFirst => by cases isFirst; rfl)]
    have digits := List.length_pos_of_ne_nil none
    simp only [List.cons_append, skipFraction, Cursor.next,
      skipDigits_digits proper.fraction noDigit]
    rw [if_neg (by omega)]
    exact skipExponent?_chars proper boundary _

/-! ## Values -/

theorem skipStart_number {numeral : Numeral} (proper : numeral.IsProper) (limit : Nat)
    {rest : List Char} (boundary : IsBoundary rest) (offset : Nat) :
    ∃ behind, skipStart limit ⟨numeral.chars ++ rest, offset⟩ = .ok (none, ⟨rest, behind⟩) := by
  rw [Numeral.chars]
  split
  · rcases skipNumber_unsigned proper boundary (offset + 1) with ⟨behind, equal⟩
    refine ⟨behind, ?_⟩
    rw [List.cons_append, List.cons_append, List.nil_append, skipStart]
    simp only [Cursor.next, equal, Outcome.map_ok]
  · rcases skipNumber_unsigned proper boundary offset with ⟨behind, equal⟩
    rcases proper.start with ⟨c, more, startsWith, isDigit⟩
    refine ⟨behind, ?_⟩
    rw [startsWith] at equal
    rw [List.nil_append, startsWith, skipStart]
    simp only [List.cons_append] at equal ⊢
    split
    case h_9 heads =>
      cases heads
      rw [if_pos isDigit, equal]
      rfl
    all_goals simp_all

/-- From what is due to what is due behind some characters, with some brackets open before and
behind them. Four times the characters are as many steps as it takes and some to spare. -/
def Passes (limit : Nat) (due : Due) (opened : List Bracket) (chars : List Char) (next : Due)
    (left : List Bracket) (spare : Nat) : Prop :=
  ∀ rest, IsBoundary rest → ∀ offset, ∃ used behind, used + spare ≤ 4 * chars.length ∧
    ∀ steps, skipUntilClosed limit (used + steps) due opened ⟨chars ++ rest, offset⟩ =
      skipUntilClosed limit steps next left ⟨rest, behind⟩

def Outline.IsSkipped (outline : Outline) : Prop :=
  ∀ (limit : Nat) {gap chars : List Char}, IsGap gap → outline.Spells chars →
    chars.length < limit → ∀ opened,
      Passes limit .value opened (gap ++ chars) .separator opened 1

theorem skipUntilClosed_scalar {limit : Nat} {gap chars : List Char} (isGap : IsGap gap) {c : Char}
    {more : List Char} (startsWith : chars = c :: more) (notBlank : isSpace c = false)
    (opened : List Bracket)
    (scalar : ∀ rest, IsBoundary rest → ∀ offset, ∃ behind,
      skipStart limit ⟨chars ++ rest, offset⟩ = .ok (none, ⟨rest, behind⟩)) :
    Passes limit .value opened (gap ++ chars) .separator opened 1 := by
  intro rest boundary offset
  rcases scalar rest boundary (offset + gap.length) with ⟨behind, starts⟩
  refine ⟨1, behind, ?_, ?_⟩
  · rw [startsWith, List.length_append, List.length_cons]
    omega
  · intro steps
    rw [startsWith] at starts ⊢
    rw [Nat.add_comm, List.append_assoc, List.cons_append, skipUntilClosed,
      skipSpaces_gap isGap notBlank, ← List.cons_append, starts]
    rfl

def dueBefore (first : Bool) : Due :=
  if first then .contents else .separator

theorem skipUntilClosed_lead {first : Bool} {lead : List Char}
    (isLead : IsLead first lead) {bracket : Bracket} {c : Char} (notBlank : isSpace c = false)
    (opens : bracket.isClosedBy c = false) (opened : List Bracket) (rest : List Char)
    (offset : Nat) :
    ∃ gap behind, IsGap gap ∧ gap.length ≤ lead.length ∧
      ∀ limit steps, skipUntilClosed limit (steps + 1) (dueBefore first) (bracket :: opened)
          ⟨lead ++ c :: rest, offset⟩ =
        skipUntilClosed limit steps (dueBehindComma bracket) (bracket :: opened)
          ⟨gap ++ c :: rest, behind⟩ := by
  rcases isLead with ⟨before, after, isBefore, isAfter, rfl⟩
  cases first with
  | true =>
      refine ⟨[], offset + before.length + after.length, isGap_nil, Nat.zero_le _, ?_⟩
      intro limit steps
      rw [dueBefore, if_pos rfl, if_pos rfl, List.append_nil, List.append_assoc, skipUntilClosed,
        skipSpaces_append isBefore, skipSpaces_gap isAfter notBlank]
      simp only [opens]
      rfl
  | false =>
      refine ⟨after, offset + before.length + 1, isAfter, ?_, ?_⟩
      · rw [List.length_append]
        omega
      · intro limit steps
        rw [dueBefore, if_neg Bool.false_ne_true, if_neg Bool.false_ne_true, List.append_assoc,
          List.append_assoc, List.singleton_append, skipUntilClosed, skipSpaces_gap isBefore rfl]
        rfl

theorem passes_closing {limit : Nat} {gap : List Char} (isGap : IsGap gap) (first : Bool)
    {bracket : Bracket} {c : Char} (notBlank : isSpace c = false) (notComma : c ≠ ',')
    (closes : bracket.isClosedBy c = true) (opened : List Bracket) :
    Passes limit (dueBefore first) (bracket :: opened) (gap ++ [c]) .separator opened 0 := by
  intro rest boundary offset
  refine ⟨1, offset + gap.length + 1, ?_, ?_⟩
  · rw [List.length_append, List.length_singleton]
    omega
  · intro steps
    rw [Nat.add_comm, List.append_assoc, List.singleton_append]
    cases first with
    | true =>
        rw [dueBefore, if_pos rfl, skipUntilClosed, skipSpaces_gap isGap notBlank]
        simp only [closes, if_true]
        rfl
    | false =>
        rw [dueBefore, if_neg Bool.false_ne_true, skipUntilClosed, skipSpaces_gap isGap notBlank]
        simp only [if_neg notComma, closes, if_true]
        rfl

theorem passes_items {limit : Nat} {items : List Outline}
    (skipped : ∀ item ∈ items, item.IsSkipped) {first : Bool} {chars : List Char}
    (spells : Outline.SpellsItems first items chars) (enough : chars.length < limit)
    (opened : List Bracket) :
    Passes limit (dueBefore first) (.square :: opened) chars .separator opened 0 := by
  induction items generalizing first chars with
  | nil =>
      rw [Outline.SpellsItems] at spells
      rcases spells with ⟨gap, isGap, rfl⟩
      exact passes_closing isGap first rfl (by decide) rfl opened
  | cons head tail induction =>
      rw [Outline.SpellsItems] at spells
      rcases spells with ⟨lead, item, others, isLead, spellsHead, spellsTail, rfl⟩
      rcases List.forall_mem_cons.mp skipped with ⟨skippedHead, skippedTail⟩
      simp only [List.length_append] at enough
      intro rest boundary offset
      rcases spellsHead.start with ⟨c, more, startsWith, isStart⟩
      have opens : Bracket.square.isClosedBy c = false := decide_eq_false isStart.2.1
      rcases skipUntilClosed_lead isLead isStart.1 opens opened (more ++ (others ++ rest)) offset
        with ⟨gap, atItem, isGap, shorter, leads⟩
      rw [← List.cons_append, ← startsWith] at leads
      rcases skippedHead limit isGap spellsHead (by omega) (.square :: opened) (others ++ rest)
        (spellsTail.isBoundary rest) atItem with ⟨usedHead, atOthers, fewHead, passesHead⟩
      rcases induction skippedTail spellsTail (by omega) rest boundary atOthers with
        ⟨usedTail, behind, fewTail, passesTail⟩
      refine ⟨usedHead + usedTail + 1, behind, ?_, ?_⟩
      · simp only [List.length_append] at fewHead ⊢
        omega
      · intro steps
        have regroup : usedHead + usedTail + 1 + steps = usedHead + (usedTail + steps) + 1 := by
          omega
        have passed := passesHead (usedTail + steps)
        rw [List.append_assoc] at passed
        rw [regroup, List.append_assoc, List.append_assoc, leads, ← passesTail steps]
        exact passed

theorem skipSpaces_quoted (parts : List TextPart) (rest : List Char) (offset : Nat) :
    Cursor.skipSpaces ⟨quotedChars parts ++ rest, offset⟩ =
      ⟨quotedChars parts ++ rest, offset⟩ := by
  rw [quotedChars_append, skipSpaces_cons rfl]

theorem skipKey_quoted {key : List TextPart} (proper : ∀ part ∈ key, part.IsProper) {limit : Nat}
    (enough : (quotedChars key).length < limit) {gap : List Char} (isGap : IsGap gap)
    (rest : List Char) (offset : Nat) :
    ∃ behind, skipKey limit ⟨quotedChars key ++ (gap ++ ':' :: rest), offset⟩ =
      .ok ⟨rest, behind⟩ := by
  rw [length_quotedChars] at enough
  rcases skipString_parts proper (by omega : _ < limit) (gap ++ ':' :: rest) (offset + 1) with
    ⟨atColon, skips⟩
  refine ⟨atColon + gap.length + 1, ?_⟩
  rw [quotedChars_append, skipKey]
  simp only [Cursor.next, skips, Outcome.ok_bind, skipSpaces_gap isGap (c := ':') rfl]

theorem passes_members {limit : Nat} {members : List (List TextPart × Outline)}
    (skipped : ∀ member ∈ members, member.2.IsSkipped) {first : Bool} {chars : List Char}
    (spells : Outline.SpellsMembers first members chars) (enough : chars.length < limit)
    (opened : List Bracket) :
    Passes limit (dueBefore first) (.curly :: opened) chars .separator opened 0 := by
  induction members generalizing first chars with
  | nil =>
      rw [Outline.SpellsMembers] at spells
      rcases spells with ⟨gap, isGap, rfl⟩
      exact passes_closing isGap first rfl (by decide) rfl opened
  | cons member tail induction =>
      rcases member with ⟨key, value⟩
      rw [Outline.SpellsMembers] at spells
      rcases spells with
        ⟨lead, before, behindColon, item, others, isLead, proper, isBefore, isBehind, spellsValue,
          spellsTail, rfl⟩
      rcases List.forall_mem_cons.mp skipped with ⟨skippedValue, skippedTail⟩
      simp only [List.length_append, List.length_cons] at enough
      intro rest boundary offset
      have opens : Bracket.curly.isClosedBy '"' = false := rfl
      rcases skipUntilClosed_lead isLead rfl opens opened (key.flatMap TextPart.chars ++
        '"' :: (before ++ ':' :: (behindColon ++ (item ++ (others ++ rest))))) offset with
        ⟨gap, atKey, isGap, shorter, leads⟩
      rw [← quotedChars_append] at leads
      have quoted : (quotedChars key).length < limit := by omega
      rcases skipKey_quoted proper quoted isBefore (behindColon ++ (item ++ (others ++ rest)))
        (atKey + gap.length) with ⟨atValue, passesKey⟩
      rcases skippedValue limit isBehind spellsValue (by omega) (.curly :: opened) (others ++ rest)
        (spellsTail.isBoundary rest) atValue with ⟨usedValue, atOthers, fewValue, passesValue⟩
      rcases induction skippedTail spellsTail (by omega) rest boundary atOthers with
        ⟨usedTail, behind, fewTail, passesTail⟩
      have twoQuotes := length_quotedChars key
      refine ⟨usedValue + usedTail + 1 + 1, behind, ?_, ?_⟩
      · simp only [List.length_append, List.length_cons] at fewValue ⊢
        omega
      · intro steps
        have regroup : usedValue + usedTail + 1 + 1 + steps =
            usedValue + (usedTail + steps) + 1 + 1 := by
          omega
        have passed := passesValue (usedTail + steps)
        rw [List.append_assoc] at passed
        simp only [List.append_assoc, List.cons_append]
        rw [regroup, leads, dueBehindComma, skipUntilClosed, skipSpaces_append isGap,
          skipSpaces_quoted, passesKey, ← passesTail steps]
        exact passed

theorem passes_opened {limit : Nat} {gap : List Char} (isGap : IsGap gap) {c : Char}
    (notBlank : isSpace c = false) {bracket : Bracket} {contents : List Char}
    (opens : ∀ rest offset, skipStart limit ⟨c :: (contents ++ rest), offset⟩ =
      .ok (some bracket, ⟨contents ++ rest, offset + 1⟩))
    {opened : List Bracket}
    (passes : Passes limit .contents (bracket :: opened) contents .separator opened 0) :
    Passes limit .value opened (gap ++ c :: contents) .separator opened 1 := by
  intro rest boundary offset
  rcases passes rest boundary (offset + gap.length + 1) with ⟨used, behind, few, passesContents⟩
  refine ⟨used + 1, behind, ?_, ?_⟩
  · rw [List.length_append, List.length_cons]
    omega
  · intro steps
    have regroup : used + 1 + steps = used + steps + 1 := by omega
    rw [regroup, List.append_assoc, List.cons_append, skipUntilClosed,
      skipSpaces_gap isGap notBlank, opens, ← passesContents steps]
    rfl

theorem Outline.isSkipped (outline : Outline) : outline.IsSkipped := by
  induction outline using Outline.induction_on with
  | null =>
      intro limit gap chars isGap spells enough opened
      rw [Spells] at spells
      exact skipUntilClosed_scalar isGap spells rfl opened fun rest _ offset =>
        ⟨_, by rw [spells]; rfl⟩
  | boolean value =>
      intro limit gap chars isGap spells enough opened
      cases value
      all_goals
        rw [Spells] at spells
        exact skipUntilClosed_scalar isGap spells rfl opened fun rest _ offset =>
          ⟨_, by rw [spells]; rfl⟩
  | number numeral =>
      intro limit gap chars isGap spells enough opened
      rcases spells.start with ⟨c, more, startsWith, isStart⟩
      rw [Spells] at spells
      rcases spells with ⟨proper, rfl⟩
      exact skipUntilClosed_scalar isGap startsWith isStart.1 opened fun rest boundary offset =>
        skipStart_number proper limit boundary offset
  | text parts =>
      intro limit gap chars isGap spells enough opened
      rw [Spells] at spells
      rcases spells with ⟨proper, rfl⟩
      have startsWith : quotedChars parts = '"' :: (parts.flatMap TextPart.chars ++ ['"']) := rfl
      refine skipUntilClosed_scalar isGap startsWith rfl opened fun rest _ offset => ?_
      rw [length_quotedChars] at enough
      rcases skipString_parts proper (by omega : _ < limit) rest (offset + 1) with ⟨behind, skips⟩
      refine ⟨behind, ?_⟩
      rw [quotedChars_append, skipStart]
      simp only [Cursor.next, skips, Outcome.map_ok]
  | array items induction =>
      intro limit gap chars isGap spells enough opened
      rw [Spells] at spells
      rcases spells with ⟨contents, spells, rfl⟩
      rw [List.length_cons] at enough
      have opens (rest : List Char) (offset : Nat) :
          skipStart limit ⟨'[' :: (contents ++ rest), offset⟩ =
            .ok (some .square, ⟨contents ++ rest, offset + 1⟩) := rfl
      exact passes_opened isGap rfl opens (passes_items induction spells (by omega) opened)
  | object members induction =>
      intro limit gap chars isGap spells enough opened
      rw [Spells] at spells
      rcases spells with ⟨contents, spells, rfl⟩
      rw [List.length_cons] at enough
      have opens (rest : List Char) (offset : Nat) :
          skipStart limit ⟨'\x7b' :: (contents ++ rest), offset⟩ =
            .ok (some .curly, ⟨contents ++ rest, offset + 1⟩) := rfl
      exact passes_opened isGap rfl opens (passes_members induction spells (by omega) opened)

theorem skipValue_spells {outline : Outline} {chars gap : List Char} (isGap : IsGap gap)
    (spells : outline.Spells chars) {steps : Nat} (enough : (gap ++ chars).length < steps)
    {rest : List Char} (boundary : IsBoundary rest) (offset : Nat) :
    ∃ behind, skipValue steps ⟨gap ++ chars ++ rest, offset⟩ = .ok ⟨rest, behind⟩ := by
  have shorter : chars.length < steps := by
    rw [List.length_append] at enough
    omega
  rcases outline.isSkipped steps isGap spells shorter [] rest boundary offset with
    ⟨used, behind, few, passes⟩
  rcases Nat.exists_eq_add_of_lt (by omega : used < 4 * steps) with ⟨left, equal⟩
  refine ⟨behind, ?_⟩
  rw [skipValue, equal, Nat.add_assoc, passes]
  rfl

end Bulletin.Json
