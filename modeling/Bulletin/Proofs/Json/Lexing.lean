import Bulletin.Proofs.Json.Finding
import Bulletin.Proofs.Json.Skipping
import Mathlib.Data.List.TakeWhile
/-!
# Tokens that were read

Whatever the scanners read as a string or a number, or pass over as one, is written as one, and
what stands behind it is left.
-/

namespace Bulletin.Json

/-! ## Blanks, letters and strings -/

theorem exists_gap (cursor : Cursor) :
    ∃ gap, IsGap gap ∧ cursor.rest = gap ++ cursor.skipSpaces.rest := by
  have skipped (rest : List Char) (offset : Nat) :
      ∃ gap, IsGap gap ∧ rest = gap ++ (skipSpaces rest offset).rest := by
    induction rest generalizing offset with
    | nil => exact ⟨[], isGap_nil, rfl⟩
    | cons c rest induction =>
        rw [skipSpaces]
        split
        case isTrue blank =>
          rcases induction (offset + 1) with ⟨gap, isGap, equal⟩
          exact ⟨c :: gap, List.forall_mem_cons.mpr ⟨blank, isGap⟩, congrArg (c :: ·) equal⟩
        case isFalse => exact ⟨[], isGap_nil, rfl⟩
  exact skipped cursor.rest cursor.offset

theorem eq_of_expectLetters {letters : List Char} {cursor after : Cursor}
    (read : expectLetters letters cursor = .ok after) : cursor.rest = letters ++ after.rest := by
  induction letters generalizing cursor with
  | nil =>
      cases read
      rfl
  | cons letter letters induction =>
      rw [expectLetters] at read
      split at read
      · cases read
      · rename_i c rest startsWith
        split at read
        · rename_i same
          rw [startsWith, same]
          exact congrArg (letter :: ·) (induction read)
        · cases read

theorem exists_code_of_hexCode {cursor after : Cursor} {code : Nat}
    (read : hexCode cursor = .ok (code, after)) :
    ∃ first second third fourth, (TextPart.code first second third fourth).IsProper ∧
      cursor.rest = first :: second :: third :: fourth :: after.rest := by
  rw [hexCode] at read
  simp only at read
  split at read
  · rename_i first second third fourth rest startsWith
    split at read
    · rename_i digits isHex
      cases read
      refine ⟨first, second, third, fourth, ?_, startsWith⟩
      simp only [List.mapM_cons, Option.bind_eq_bind, Option.bind_eq_some_iff] at isHex
      rcases isHex with
        ⟨_, isFirst, _, ⟨_, isSecond, _, ⟨_, isThird, _, ⟨_, isFourth, -⟩, -⟩, -⟩, -⟩
      simp [TextPart.IsProper, isFirst, isSecond, isThird, isFourth]
    · cases read
  · cases read

theorem exists_parts_of_codeEscape {cursor after : Cursor} {c : Char}
    (read : codeEscape cursor = .ok (c, after)) :
    ∃ parts : List TextPart, (∀ part ∈ parts, part.IsProper) ∧
      '\\' :: 'u' :: cursor.rest = parts.flatMap TextPart.chars ++ after.rest := by
  rcases Outcome.bind_eq_ok.mp read with ⟨⟨code, behind⟩, isCode, read⟩
  rcases exists_code_of_hexCode isCode with ⟨first, second, third, fourth, proper, equal⟩
  dsimp only at read
  split at read
  · cases read
  · split at read
    · cases read
      exact ⟨[.code first second third fourth], List.forall_mem_singleton.mpr proper, by
        rw [equal]
        rfl⟩
    · split at read
      case h_3 rest startsWith =>
        rcases Outcome.bind_eq_ok.mp read with ⟨⟨low, reached⟩, isLow, read⟩
        rcases exists_code_of_hexCode isLow with ⟨one, two, three, four, properLow, equalLow⟩
        dsimp only at read equalLow
        split at read
        · have same : reached = after := (Prod.mk.inj (Except.ok.inj read)).2
          refine ⟨[.code first second third fourth, .code one two three four],
            List.forall_mem_cons.mpr ⟨proper, List.forall_mem_singleton.mpr properLow⟩, ?_⟩
          rw [equal, startsWith, equalLow, same]
          rfl
        · cases read
      all_goals cases read

theorem exists_parts_of_escape {cursor after : Cursor} {c : Char}
    (read : escape cursor = .ok (c, after)) :
    ∃ parts : List TextPart, (∀ part ∈ parts, part.IsProper) ∧
      '\\' :: cursor.rest = parts.flatMap TextPart.chars ++ after.rest := by
  rw [escape] at read
  split at read
  case h_1 => cases read
  case h_10 rest startsWith =>
    rcases exists_parts_of_codeEscape read with ⟨parts, proper, equal⟩
    exact ⟨parts, proper, by rw [startsWith, ← equal]; rfl⟩
  case h_11 => cases read
  all_goals
    rename_i rest startsWith
    cases read
    refine ⟨[.letter _], List.forall_mem_singleton.mpr ?_, by rw [startsWith]; rfl⟩
    simp [TextPart.IsProper]

theorem exists_parts_of_plain {c : Char} {chars rest : List Char} {parts : List TextPart}
    (notQuote : c = '"' → False) (notBackslash : c = '\\' → False)
    (notControl : ¬c.toNat < 0x20) {cursor : Cursor} (startsWith : cursor.rest = c :: chars)
    (proper : ∀ part ∈ parts, part.IsProper)
    (equal : chars = parts.flatMap TextPart.chars ++ '"' :: rest) :
    ∃ parts : List TextPart, (∀ part ∈ parts, part.IsProper) ∧
      cursor.rest = parts.flatMap TextPart.chars ++ '"' :: rest := by
  have plain : (TextPart.plain c).IsProper := ⟨notQuote, notBackslash, Nat.not_lt.mp notControl⟩
  refine ⟨.plain c :: parts, List.forall_mem_cons.mpr ⟨plain, proper⟩, ?_⟩
  rw [startsWith]
  exact congrArg (c :: ·) equal

theorem exists_parts_of_stringBody {limit : Nat} {read : List Char} {cursor after : Cursor}
    {value : String} (body : stringBody limit read cursor = .ok (value, after)) :
    ∃ parts : List TextPart, (∀ part ∈ parts, part.IsProper) ∧
      cursor.rest = parts.flatMap TextPart.chars ++ '"' :: after.rest := by
  induction limit generalizing read cursor with
  | zero => cases body
  | succ limit induction =>
      rw [stringBody] at body
      split at body
      case h_1 => cases body
      case h_2 rest startsWith =>
        cases body
        exact ⟨[], fun _ isPart => (List.not_mem_nil isPart).elim, startsWith⟩
      case h_3 rest startsWith =>
        rcases Outcome.bind_eq_ok.mp body with ⟨⟨c, behind⟩, escaped, body⟩
        rcases exists_parts_of_escape escaped with ⟨first, properFirst, equalFirst⟩
        rcases induction body with ⟨parts, proper, equal⟩
        refine ⟨first ++ parts, List.forall_mem_append.mpr ⟨properFirst, proper⟩, ?_⟩
        rw [startsWith, List.flatMap_append, List.append_assoc, ← equal]
        exact equalFirst
      case h_4 c rest notQuote notBackslash startsWith =>
        split at body
        · cases body
        · rename_i notControl
          rcases induction body with ⟨parts, proper, equal⟩
          exact exists_parts_of_plain notQuote notBackslash notControl startsWith proper equal

theorem exists_parts_of_skipEscape {cursor after : Cursor}
    (skipped : skipEscape cursor = .ok after) :
    ∃ part : TextPart, part.IsProper ∧ '\\' :: cursor.rest = part.chars ++ after.rest := by
  rw [skipEscape] at skipped
  split at skipped
  · cases skipped
  · rename_i rest startsWith
    rcases Outcome.map_eq_ok.mp skipped with ⟨⟨code, behind⟩, isCode, rfl⟩
    rcases exists_code_of_hexCode isCode with ⟨first, second, third, fourth, proper, equal⟩
    have fromCode : rest = first :: second :: third :: fourth :: behind.rest := equal
    exact ⟨.code first second third fourth, proper, by rw [startsWith, fromCode]; rfl⟩
  · rename_i c rest notCode startsWith
    split at skipped
    · rename_i isLetter
      cases skipped
      refine ⟨.letter c, ?_, by rw [startsWith]; rfl⟩
      simpa [TextPart.IsProper] using isLetter
    · cases skipped

theorem exists_parts_of_skipString {limit : Nat} {cursor after : Cursor}
    (skipped : skipString limit cursor = .ok after) :
    ∃ parts : List TextPart, (∀ part ∈ parts, part.IsProper) ∧
      cursor.rest = parts.flatMap TextPart.chars ++ '"' :: after.rest := by
  induction limit generalizing cursor with
  | zero => cases skipped
  | succ limit induction =>
      rw [skipString] at skipped
      split at skipped
      case h_1 => cases skipped
      case h_2 rest startsWith =>
        cases skipped
        exact ⟨[], fun _ isPart => (List.not_mem_nil isPart).elim, startsWith⟩
      case h_3 rest startsWith =>
        rcases Outcome.bind_eq_ok.mp skipped with ⟨behind, escaped, skipped⟩
        rcases exists_parts_of_skipEscape escaped with ⟨part, isProper, equalPart⟩
        rcases induction skipped with ⟨parts, proper, equal⟩
        refine ⟨part :: parts, List.forall_mem_cons.mpr ⟨isProper, proper⟩, ?_⟩
        rw [startsWith, List.flatMap_cons, List.append_assoc, ← equal]
        exact equalPart
      case h_4 c rest notQuote notBackslash startsWith =>
        split at skipped
        · cases skipped
        · rename_i notControl
          rcases induction skipped with ⟨parts, proper, equal⟩
          exact exists_parts_of_plain notQuote notBackslash notControl startsWith proper equal

/-! ## Numbers -/

def HasExponent (chars rest : List Char) : Prop :=
  ∃ exponent? : Option Exponent, (∀ exponent ∈ exponent?, exponent.IsProper) ∧
    chars = (exponent?.map Exponent.chars).getD [] ++ rest

def HasTail (chars rest : List Char) : Prop :=
  ∃ fraction others, AreDigits fraction ∧ HasExponent others rest ∧
    chars = (if fraction = [] then [] else '.' :: fraction) ++ others

theorem hasExponent_none (rest : List Char) : HasExponent rest rest :=
  ⟨none, nofun, rfl⟩

theorem HasExponent.hasTail {chars rest : List Char} (hasExponent : HasExponent chars rest) :
    HasTail chars rest :=
  ⟨[], chars, nofun, hasExponent, rfl⟩

theorem areDigits_digitRun (cursor : Cursor) : AreDigits (digitRun cursor).1 := by
  intro c isDigit
  rw [digitRun, List.span_eq_takeWhile_dropWhile] at isDigit
  exact List.mem_takeWhile_imp isDigit

theorem eq_digitRun (cursor : Cursor) :
    cursor.rest = (digitRun cursor).1 ++ (digitRun cursor).2.rest := by
  rw [digitRun, List.span_eq_takeWhile_dropWhile]
  exact List.takeWhile_append_dropWhile.symm

theorem digitRun_ne_nil {cursor : Cursor} {c : Char} {rest : List Char}
    (startsWith : cursor.rest = c :: rest) (isDigit : c.isDigit = true) :
    (digitRun cursor).1 ≠ [] := by
  rw [digitRun, List.span_eq_takeWhile_dropWhile, startsWith, List.takeWhile_cons_of_pos isDigit]
  exact List.cons_ne_nil _ _

theorem exists_sign (cursor : Cursor) :
    ∃ sign ∈ [[], ['+'], ['-']], cursor.rest = sign ++ (exponentSign cursor).2.rest := by
  rw [exponentSign]
  split
  · exact ⟨['+'], by simp, by assumption⟩
  · exact ⟨['-'], by simp, by assumption⟩
  · exact ⟨[], by simp, rfl⟩

theorem hasExponent_of_digits {cursor : Cursor} {mark c : Char} {more : List Char}
    (isMark : mark = 'e' ∨ mark = 'E') (startsWith : (exponentSign cursor).2.rest = c :: more)
    (isDigit : c.isDigit = true) :
    HasExponent (mark :: cursor.rest) (digitRun (exponentSign cursor).2).2.rest := by
  rcases exists_sign cursor with ⟨sign, isSign, equal⟩
  refine ⟨some ⟨mark, sign, (digitRun (exponentSign cursor).2).1⟩, ?_, ?_⟩
  · rintro exponent ⟨⟩
    exact ⟨isMark, isSign, areDigits_digitRun _, digitRun_ne_nil startsWith isDigit⟩
  · rw [equal, eq_digitRun (exponentSign cursor).2]
    simp [Exponent.chars]

theorem eq_of_realAt {negative : Bool} {kept : Significand} {cursor after : Cursor}
    {value : Json.Number} (read : realAt negative kept cursor = .ok (value, after)) :
    after = cursor := by
  rw [realAt] at read
  split at read
  · exact (Prod.mk.inj (Except.ok.inj read)).2.symm
  · cases read

theorem hasExponent_of_exponentPart {negative : Bool} {kept : Significand}
    {cursor after : Cursor} {value : Json.Number} {mark : Char} (isMark : mark = 'e' ∨ mark = 'E')
    (read : exponentPart negative kept cursor = .ok (value, after)) :
    HasExponent (mark :: cursor.rest) after.rest := by
  have parts : exponentPart negative kept cursor =
      unsignedExponentPart negative kept (exponentSign cursor) := rfl
  rw [parts, unsignedExponentPart] at read
  split at read
  · cases read
  · rename_i c more startsWith
    split at read
    · rename_i isDigit
      have ends : after = (digitRun (exponentSign cursor).2).2 := by
        rw [exponentDigits] at read
        split at read
        · exact eq_of_realAt read
        · split at read
          · cases read
          · exact (Prod.mk.inj (Except.ok.inj read)).2.symm
      rw [ends]
      exact hasExponent_of_digits isMark startsWith isDigit
    · cases read


theorem HasExponent.fraction {fraction chars rest : List Char} (areDigits : AreDigits fraction)
    (nonempty : fraction ≠ []) (hasExponent : HasExponent chars rest) :
    HasTail ('.' :: (fraction ++ chars)) rest :=
  ⟨fraction, chars, areDigits, hasExponent, by rw [if_neg nonempty]; rfl⟩

theorem hasTail_of_fractionPart {negative : Bool} {kept : Significand} {cursor after : Cursor}
    {value : Json.Number} (read : fractionPart negative kept cursor = .ok (value, after)) :
    HasTail ('.' :: cursor.rest) after.rest := by
  have areDigits := areDigits_digitRun cursor
  rw [fractionPart] at read
  dsimp only at read
  split at read
  · split at read <;> cases read
  · rename_i nonempty
    have isFraction : (digitRun cursor).1 ≠ [] := by simpa using nonempty
    rw [eq_digitRun cursor]
    refine HasExponent.fraction areDigits isFraction ?_
    split at read
    · rename_i rest startsWith
      rw [startsWith]
      exact hasExponent_of_exponentPart (.inl rfl) read
    · rename_i rest startsWith
      rw [startsWith]
      exact hasExponent_of_exponentPart (.inr rfl) read
    · rw [eq_of_realAt read]
      exact hasExponent_none _

theorem exists_numeral_of_tail {cursor : Cursor} {c : Char} {rest others : List Char}
    (startsWith : cursor.rest = c :: rest) (isDigit : c.isDigit = true)
    (notZero : ¬(c = '0' && (rest.head?.map Char.isDigit).getD false) = true)
    (hasTail : HasTail (digitRun cursor).2.rest others) (negative : Bool) :
    ∃ numeral : Numeral, numeral.IsProper ∧ numeral.negative = negative ∧
      cursor.rest = numeral.unsigned ++ others := by
  rcases hasTail with ⟨fraction, chars, areDigits, ⟨exponent?, proper, rfl⟩, equal⟩
  refine ⟨⟨negative, (digitRun cursor).1, fraction, exponent?⟩, ?_, rfl, ?_⟩
  · refine ⟨areDigits_digitRun cursor, digitRun_ne_nil startsWith isDigit, ?_, areDigits, proper⟩
    intro isZero
    rw [digitRun, List.span_eq_takeWhile_dropWhile, startsWith,
      List.takeWhile_cons_of_pos isDigit] at isZero ⊢
    cases isZero
    cases rest with
    | nil => rfl
    | cons second rest =>
        have noDigit : second.isDigit = false := by simpa using notZero
        dsimp only
        rw [List.takeWhile_cons_of_neg (by rw [noDigit]; exact Bool.false_ne_true)]
  · rw [eq_digitRun cursor, equal]
    simp [Numeral.unsigned, Numeral.fractionChars, Numeral.exponentChars]

theorem exists_numeral_of_unsignedNumber {negative : Bool} {cursor after : Cursor}
    {value : Json.Number} (read : unsignedNumber negative cursor = .ok (value, after)) :
    ∃ numeral : Numeral, numeral.IsProper ∧ numeral.negative = negative ∧
      cursor.rest = numeral.unsigned ++ after.rest := by
  rw [unsignedNumber] at read
  split at read
  · cases read
  · rename_i c rest startsWith
    split at read
    · cases read
    · rename_i isDigit
      dsimp only at read
      split at read
      · cases read
      · rename_i notZero
        refine exists_numeral_of_tail startsWith (by simpa using isDigit) notZero ?_ negative
        split at read
        · rename_i more point
          rw [point]
          exact hasTail_of_fractionPart read
        · rename_i more mark
          rw [mark]
          exact (hasExponent_of_exponentPart (.inl rfl) read).hasTail
        · rename_i more mark
          rw [mark]
          exact (hasExponent_of_exponentPart (.inr rfl) read).hasTail
        · have ends : after = (digitRun cursor).2 := by
            split at read
            · exact eq_of_realAt read
            · split at read
              · exact (Prod.mk.inj (Except.ok.inj read)).2.symm
              · split at read
                · exact eq_of_realAt read
                · exact (Prod.mk.inj (Except.ok.inj read)).2.symm
          rw [ends]
          exact (hasExponent_none _).hasTail

theorem hasExponent_of_skipExponent {cursor after : Cursor} {mark : Char}
    (isMark : mark = 'e' ∨ mark = 'E') (skipped : skipExponent cursor = .ok after) :
    HasExponent (mark :: cursor.rest) after.rest := by
  rw [skipExponent_eq, unsignedExponent] at skipped
  split at skipped
  · cases skipped
  · rename_i c more startsWith
    split at skipped
    · rename_i isDigit
      cases skipped
      exact hasExponent_of_digits isMark startsWith isDigit
    · cases skipped

theorem hasExponent_of_skipExponent? {cursor after : Cursor}
    (skipped : skipExponent? cursor = .ok after) : HasExponent cursor.rest after.rest := by
  rw [skipExponent?] at skipped
  split at skipped
  · rename_i rest startsWith
    rw [startsWith]
    exact hasExponent_of_skipExponent (.inl rfl) skipped
  · rename_i rest startsWith
    rw [startsWith]
    exact hasExponent_of_skipExponent (.inr rfl) skipped
  · cases skipped
    exact hasExponent_none _

theorem skipDigits_eq (cursor : Cursor) : skipDigits cursor = (digitRun cursor).2 := rfl

theorem exists_numeral_of_skipNumber {cursor after : Cursor}
    (skipped : skipNumber cursor = .ok after) (negative : Bool) :
    ∃ numeral : Numeral, numeral.IsProper ∧ numeral.negative = negative ∧
      cursor.rest = numeral.unsigned ++ after.rest := by
  rw [skipNumber] at skipped
  split at skipped
  · cases skipped
  · rename_i c rest startsWith
    split at skipped
    · cases skipped
    · rename_i isDigit
      split at skipped
      · cases skipped
      · rename_i notZero
        refine exists_numeral_of_tail startsWith (by simpa using isDigit) notZero ?_ negative
        dsimp only at skipped
        split at skipped
        · rename_i more point
          split at skipped
          · cases skipped
          · rename_i moved
            rw [skipDigits_eq, skipDigits_eq] at moved skipped
            rw [skipDigits_eq] at point
            rw [point]
            have nonempty : (digitRun ((digitRun cursor).2.next more)).1 ≠ [] := by
              intro none
              refine moved ?_
              rw [digitRun] at none ⊢
              simp_all
            have exponent := hasExponent_of_skipExponent? skipped
            have fraction := HasExponent.fraction (areDigits_digitRun _) nonempty exponent
            rwa [← eq_digitRun] at fraction
        · exact (hasExponent_of_skipExponent? skipped).hasTail

end Bulletin.Json
