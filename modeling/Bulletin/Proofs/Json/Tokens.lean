import Bulletin.Proofs.Json.Outline
/-!
# Tokens read in any place

What is read of a string or of a number depends on how it is written, not on what stands behind it
or on how much of the text was read before.
-/

namespace Bulletin.Json

/-! ## What is given -/

/-- The result is a value, with `rest` left to be read, or it is none and the result a fault. -/
def Gives (result : Except Fault (α × Cursor)) (value? : Option α) (rest : List Char) : Prop :=
  match value? with
  | some value => Reads result value rest
  | none => ∃ fault, result = .error fault

section Gives

variable {result : Except Fault (α × Cursor)} {value? : Option α} {rest : List Char}

theorem Gives.map (gives : Gives result value? rest) (f : α → β) :
    Gives (result.map fun (value, after) => (f value, after)) (value?.map f) rest := by
  cases value? with
  | some value => exact Reads.map gives f
  | none =>
      rcases gives with ⟨fault, rfl⟩
      exact ⟨fault, rfl⟩

theorem Gives.bind {α β : Type} {result : Except Fault (α × Cursor)} {value? : Option α}
    {rest : List Char} (gives : Gives result value? rest)
    {next : α × Cursor → Except Fault (β × Cursor)} {nextValue? : α → Option β}
    {behind : List Char}
    (goesOn : ∀ value offset, Gives (next (value, ⟨rest, offset⟩)) (nextValue? value) behind) :
    Gives (result >>= next) (value?.bind nextValue?) behind := by
  cases value? with
  | some value =>
      rcases gives with ⟨offset, rfl⟩
      exact goesOn value offset
  | none =>
      rcases gives with ⟨fault, rfl⟩
      exact ⟨fault, rfl⟩

theorem Gives.value?_eq (gives : Gives result value? rest) :
    result.toOption.map Prod.fst = value? := by
  cases value? with
  | some value =>
      rcases gives with ⟨offset, rfl⟩
      rfl
  | none =>
      rcases gives with ⟨fault, rfl⟩
      rfl

end Gives

/-! ## Strings -/

theorem exists_hexCode {first second third fourth : Char}
    (proper : (TextPart.code first second third fourth).IsProper) :
    ∃ code, ∀ rest offset,
      hexCode ⟨first :: second :: third :: fourth :: rest, offset⟩ =
        .ok (code, ⟨rest, offset + 4⟩) := by
  simp only [TextPart.IsProper, List.forall_mem_cons, Option.isSome_iff_exists] at proper
  rcases proper with ⟨⟨a, inFirst⟩, ⟨b, inSecond⟩, ⟨c, inThird⟩, ⟨d, inFourth⟩, -⟩
  have digits : [first, second, third, fourth].mapM Number.hexValue? = some [a, b, c, d] := by
    simp [inFirst, inSecond, inThird, inFourth]
  exact ⟨_, fun rest offset => by simp only [hexCode, digits]; rfl⟩

theorem exists_escape {c : Char} (proper : (TextPart.letter c).IsProper) :
    ∃ value, ∀ rest offset, escape ⟨c :: rest, offset⟩ = .ok (value, ⟨rest, offset + 1⟩) := by
  simp only [TextPart.IsProper, List.mem_cons, List.not_mem_nil, or_false] at proper
  rcases proper with rfl | rfl | rfl | rfl | rfl | rfl | rfl | rfl
  all_goals exact ⟨_, fun rest offset => rfl⟩

/-- A code that needs a second one has none where anything else follows. -/
theorem codeEscape_of_high {code : Nat} {cursor : Cursor} {behind : List Char} {offset : Nat}
    (read : hexCode cursor = .ok (code, ⟨behind, offset⟩)) (high : 0xD800 ≤ code ∧ code ≤ 0xDBFF)
    (alone : ∀ rest, behind ≠ '\\' :: 'u' :: rest) : ∃ fault, codeEscape cursor = .error fault := by
  have notLow : ¬(0xDC00 ≤ code ∧ code ≤ 0xDFFF) := by omega
  have isHigh : ¬(code < 0xD800 ∨ 0xDBFF < code) := by omega
  rw [codeEscape, read]
  simp only [Outcome.ok_bind, if_neg notLow, if_neg isHigh]
  split
  · exact ⟨_, rfl⟩
  · exact ⟨_, rfl⟩
  · exact absurd rfl (alone _)
  · exact ⟨_, rfl⟩
  · exact ⟨_, rfl⟩

theorem codeEscape_pair {code next : Nat} {cursor after : Cursor} {behind : List Char}
    {offset : Nat} (read : hexCode cursor = .ok (code, ⟨'\\' :: 'u' :: behind, offset⟩))
    (high : 0xD800 ≤ code ∧ code ≤ 0xDBFF)
    (readNext : hexCode ⟨behind, offset + 2⟩ = .ok (next, after)) :
    codeEscape cursor =
      if 0xDC00 ≤ next ∧ next ≤ 0xDFFF then
        .ok (Char.ofNat (0x10000 + (code - 0xD800) * 0x400 + (next - 0xDC00)), after)
      else .error (after.fault .loneSurrogate 0) := by
  have notLow : ¬(0xDC00 ≤ code ∧ code ≤ 0xDFFF) := by omega
  have isHigh : ¬(code < 0xD800 ∨ 0xDBFF < code) := by omega
  rw [codeEscape, read]
  simp only [Outcome.ok_bind, if_neg notLow, if_neg isHigh, readNext]

section TellsCode

variable {first second third fourth : Char} {parts : List TextPart}

/-- A code before the parts is a character, and what remains of them follows, or it is none. -/
def TellsCode (first second third fourth : Char) (parts : List TextPart) :
    Option (Char × List TextPart) → Prop
  | some (c, remaining) => remaining <:+ parts ∧ ∀ rest offset,
      Reads
        (codeEscape ⟨first :: second :: third :: fourth ::
          (parts.flatMap TextPart.chars ++ '"' :: rest), offset⟩)
        c (remaining.flatMap TextPart.chars ++ '"' :: rest)
  | none => ∀ rest offset, ∃ fault,
      codeEscape ⟨first :: second :: third :: fourth ::
        (parts.flatMap TextPart.chars ++ '"' :: rest), offset⟩ = .error fault

theorem exists_tellsCode_of_high {code : Nat}
    (reads : ∀ rest offset, hexCode ⟨first :: second :: third :: fourth :: rest, offset⟩ =
      .ok (code, ⟨rest, offset + 4⟩))
    (high : 0xD800 ≤ code ∧ code ≤ 0xDBFF) (proper : ∀ part ∈ parts, part.IsProper) :
    ∃ found?, TellsCode first second third fourth parts found? := by
  cases parts with
  | nil => exact ⟨none, fun rest offset => codeEscape_of_high (reads _ offset) high (by simp)⟩
  | cons part parts =>
      have isProper := proper part List.mem_cons_self
      cases part with
      | plain c =>
          refine ⟨none, fun rest offset => codeEscape_of_high (reads _ offset) high ?_⟩
          intro behind equal
          exact absurd (List.cons.inj equal).1 isProper.2.1
      | letter c =>
          refine ⟨none, fun rest offset => codeEscape_of_high (reads _ offset) high ?_⟩
          intro behind equal
          have isU : c = 'u' := (List.cons.inj (List.cons.inj equal).2).1
          rw [isU] at isProper
          simp [TextPart.IsProper] at isProper
      | code a b c d =>
          rcases exists_hexCode isProper with ⟨next, readsNext⟩
          have pair (rest : List Char) (offset : Nat) :=
            codeEscape_pair (reads ('\\' :: 'u' :: a :: b :: c :: d ::
              (parts.flatMap TextPart.chars ++ '"' :: rest)) offset) high (readsNext _ _)
          by_cases isSecond : 0xDC00 ≤ next ∧ next ≤ 0xDFFF
          · let c := Char.ofNat (0x10000 + (code - 0xD800) * 0x400 + (next - 0xDC00))
            refine ⟨some (c, parts), List.suffix_cons _ parts, ?_⟩
            intro rest offset
            exact ⟨_, (pair rest offset).trans (if_pos isSecond)⟩
          · exact ⟨none, fun rest offset => ⟨_, (pair rest offset).trans (if_neg isSecond)⟩⟩

theorem exists_tellsCode (isCode : (TextPart.code first second third fourth).IsProper)
    (proper : ∀ part ∈ parts, part.IsProper) :
    ∃ found?, TellsCode first second third fourth parts found? := by
  rcases exists_hexCode isCode with ⟨code, reads⟩
  by_cases low : 0xDC00 ≤ code ∧ code ≤ 0xDFFF
  · refine ⟨none, fun rest offset => ?_⟩
    rw [codeEscape, reads]
    simp only [Outcome.ok_bind, if_pos low]
    exact ⟨_, rfl⟩
  by_cases single : code < 0xD800 ∨ 0xDBFF < code
  · refine ⟨some (Char.ofNat code, parts), parts.suffix_refl, fun rest offset => ?_⟩
    rw [codeEscape, reads]
    simp only [Outcome.ok_bind, if_neg low, if_pos single]
    exact ⟨_, rfl⟩
  · exact exists_tellsCode_of_high reads (by omega) proper

end TellsCode

/-- Behind what was read, the string goes on with the parts, and is the value in the end. -/
def TellsBody (parts : List TextPart) (read : List Char) (value? : Option String) : Prop :=
  ∀ limit, (parts.flatMap TextPart.chars).length < limit → ∀ rest offset,
    Gives (stringBody limit read ⟨parts.flatMap TextPart.chars ++ '"' :: rest, offset⟩) value? rest

section TellsBody

variable {parts : List TextPart} {read : List Char} {value? : Option String}

theorem tellsBody_nil (read : List Char) :
    TellsBody [] read (some (String.ofList read.reverse)) := by
  intro limit enough rest offset
  rcases Nat.exists_eq_add_one_of_ne_zero (by omega : limit ≠ 0) with ⟨limit, rfl⟩
  exact ⟨_, rfl⟩

theorem TellsBody.plain {c : Char} (proper : (TextPart.plain c).IsProper)
    (tells : TellsBody parts (c :: read) value?) : TellsBody (.plain c :: parts) read value? := by
  rcases proper with ⟨notQuote, notBackslash, printable⟩
  intro limit enough rest offset
  rcases Nat.exists_eq_add_one_of_ne_zero (by omega : limit ≠ 0) with ⟨limit, rfl⟩
  simp only [List.flatMap_cons, TextPart.chars, List.length_cons, List.cons_append,
    List.nil_append] at enough ⊢
  rw [stringBody]
  split
  case h_1 equal => cases equal
  case h_2 equal => exact absurd (List.cons.inj equal).1 notQuote
  case h_3 equal => exact absurd (List.cons.inj equal).1 notBackslash
  case h_4 equal =>
    cases equal
    rw [if_neg (by omega)]
    exact tells limit (by omega) rest _

theorem TellsBody.letter {c value : Char}
    (escapes : ∀ rest offset, escape ⟨c :: rest, offset⟩ = .ok (value, ⟨rest, offset + 1⟩))
    (tells : TellsBody parts (value :: read) value?) :
    TellsBody (.letter c :: parts) read value? := by
  intro limit enough rest offset
  rcases Nat.exists_eq_add_one_of_ne_zero (by omega : limit ≠ 0) with ⟨limit, rfl⟩
  simp only [List.flatMap_cons, TextPart.chars, List.length_cons, List.cons_append,
    List.nil_append] at enough ⊢
  rw [stringBody]
  simp only [Cursor.next, escapes, Outcome.ok_bind]
  exact tells limit (by omega) rest _

variable {first second third fourth : Char}

theorem stringBody_code (limit : Nat) (rest : List Char) (offset : Nat) :
    stringBody (limit + 1) read
        ⟨(TextPart.code first second third fourth :: parts).flatMap TextPart.chars ++ '"' :: rest,
          offset⟩ =
      (codeEscape ⟨first :: second :: third :: fourth ::
          (parts.flatMap TextPart.chars ++ '"' :: rest), offset + 1 + 1⟩ >>=
        fun found => stringBody limit (found.1 :: read) found.2) := rfl

theorem TellsBody.code {c : Char} {remaining : List TextPart}
    (found : TellsCode first second third fourth parts (some (c, remaining)))
    (tells : TellsBody remaining (c :: read) value?) :
    TellsBody (.code first second third fourth :: parts) read value? := by
  rcases found with ⟨suffix, reads⟩
  intro limit enough rest offset
  rcases Nat.exists_eq_add_one_of_ne_zero (by omega : limit ≠ 0) with ⟨limit, rfl⟩
  rcases reads rest (offset + 1 + 1) with ⟨behind, equal⟩
  rw [stringBody_code, equal]
  have fewer : (remaining.flatMap TextPart.chars).length ≤
      (parts.flatMap TextPart.chars).length := by
    rcases suffix with ⟨before, rfl⟩
    rw [List.flatMap_append, List.length_append]
    omega
  simp only [List.flatMap_cons, List.length_append, TextPart.chars, List.length_cons] at enough
  exact tells limit (by omega) rest behind

theorem tellsBody_code_none (fails : TellsCode first second third fourth parts none) :
    TellsBody (.code first second third fourth :: parts) read none := by
  intro limit enough rest offset
  rcases Nat.exists_eq_add_one_of_ne_zero (by omega : limit ≠ 0) with ⟨limit, rfl⟩
  rcases fails rest (offset + 1 + 1) with ⟨fault, equal⟩
  rw [stringBody_code, equal]
  exact ⟨fault, rfl⟩

end TellsBody

theorem exists_tellsBody (parts : List TextPart) (proper : ∀ part ∈ parts, part.IsProper)
    (read : List Char) : ∃ value?, TellsBody parts read value? := by
  -- The induction is on the number of parts, since a code may use up two of them.
  induction isCount : parts.length using Nat.strongRecOn generalizing parts read with
  | ind count induction =>
      cases parts with
      | nil => exact ⟨_, tellsBody_nil read⟩
      | cons part parts =>
          rcases List.forall_mem_cons.mp proper with ⟨isPart, others⟩
          have shorter : parts.length < count := isCount ▸ Nat.lt_succ_self parts.length
          cases part with
          | plain c =>
              rcases induction _ shorter parts others (c :: read) rfl with ⟨value?, tells⟩
              exact ⟨value?, tells.plain isPart⟩
          | letter c =>
              rcases exists_escape isPart with ⟨value, escapes⟩
              rcases induction _ shorter parts others (value :: read) rfl with ⟨value?, tells⟩
              exact ⟨value?, tells.letter escapes⟩
          | code first second third fourth =>
              rcases exists_tellsCode isPart others with ⟨_ | ⟨c, remaining⟩, found⟩
              · exact ⟨none, tellsBody_code_none found⟩
              · have inRemaining := fun part member => others part (found.1.mem member)
                have fewer := Nat.lt_of_le_of_lt found.1.length_le shorter
                rcases induction _ fewer remaining inRemaining (c :: read) rfl with
                  ⟨value?, tells⟩
                exact ⟨value?, tells.code found⟩

/-- What a string says, if every code in it has its other half. -/
def textValue? (parts : List TextPart) : Option String :=
  (stringBody ((parts.flatMap TextPart.chars).length + 1) []
    ⟨parts.flatMap TextPart.chars ++ ['"'], 0⟩).toOption.map Prod.fst

theorem gives_stringBody {parts : List TextPart} (proper : ∀ part ∈ parts, part.IsProper)
    {limit : Nat} (enough : (parts.flatMap TextPart.chars).length < limit) (rest : List Char)
    (offset : Nat) :
    Gives (stringBody limit [] ⟨parts.flatMap TextPart.chars ++ '"' :: rest, offset⟩)
      (textValue? parts) rest := by
  rcases exists_tellsBody parts proper [] with ⟨value?, gives⟩
  have same : textValue? parts = value? := (gives _ (Nat.lt_succ_self _) [] 0).value?_eq
  rw [same]
  exact gives limit enough rest offset

/-! ## Numbers -/

def NoDigit (rest : List Char) : Prop :=
  ∀ c ∈ rest.head?, c.isDigit = false

theorem IsBoundary.noDigit {rest : List Char} (boundary : IsBoundary rest) : NoDigit rest :=
  fun c isFirst => (boundary c isFirst).1

theorem span_digits {digits rest : List Char} (areDigits : AreDigits digits)
    (noDigit : NoDigit rest) : (digits ++ rest).span Char.isDigit = (digits, rest) := by
  have behind : rest.takeWhile Char.isDigit = [] ∧ rest.dropWhile Char.isDigit = rest := by
    cases rest with
    | nil => exact ⟨rfl, rfl⟩
    | cons c rest => simp [noDigit c rfl]
  rw [List.span_eq_takeWhile_dropWhile, List.takeWhile_append_of_pos areDigits,
    List.dropWhile_append_of_pos areDigits, behind.1, behind.2, List.append_nil]

theorem digitRun_digits {digits rest : List Char} (areDigits : AreDigits digits)
    (noDigit : NoDigit rest) (offset : Nat) :
    digitRun ⟨digits ++ rest, offset⟩ = (digits, ⟨rest, offset + digits.length⟩) := by
  rw [digitRun, span_digits areDigits noDigit]

theorem gives_realAt (negative : Bool) (kept : Significand) (rest : List Char) (offset : Nat) :
    Gives (realAt negative kept ⟨rest, offset⟩) (kept.real?.map (.real negative)) rest := by
  rw [realAt]
  cases kept.real? with
  | some magnitude => exact ⟨offset, rfl⟩
  | none => exact ⟨_, rfl⟩

/-- Whether an exponent is beyond all bounds is seen from its digits. -/
theorem exists_exponentValue (digits : List Char) (value : Nat) :
    (∃ total, ∀ cursor, ∃ after, exponentValue digits value cursor = .ok (total, after)) ∨
      ∀ cursor, ∃ stopped, exponentValue digits value cursor = .error stopped := by
  induction digits generalizing value with
  | nil => exact .inl ⟨value, fun cursor => ⟨cursor, rfl⟩⟩
  | cons c digits induction =>
      by_cases large : exponentLimit ≤ value * 10 + digitOf c
      · right
        intro cursor
        exact ⟨_, by rw [exponentValue]; exact if_pos large⟩
      · have step (cursor : Cursor) : exponentValue (c :: digits) value cursor =
            exponentValue digits (value * 10 + digitOf c)
              ⟨cursor.rest.drop 1, cursor.offset + 1⟩ := by
          rw [exponentValue]
          exact if_neg large
        rcases induction (value * 10 + digitOf c) with ⟨total, reads⟩ | stops
        · left
          refine ⟨total, ?_⟩
          intro cursor
          rw [step]
          exact reads _
        · right
          intro cursor
          rw [step]
          exact stops _

theorem isDigit_ne {c other : Char} (isDigit : c.isDigit = true)
    (notDigit : other.isDigit = false) : c ≠ other := by
  rintro rfl
  rw [isDigit] at notDigit
  cases notDigit

def exponentDigits (negative below : Bool) (kept : Significand) (cursor : Cursor) :
    Except Fault (Json.Number × Cursor) :=
  match exponentValue (digitRun cursor).1 0 cursor with
  | .ok (value, _) =>
      realAt negative ⟨kept.value, kept.exponent + if below then -(value : Int) else value⟩
        (digitRun cursor).2
  | .error stopped =>
      if kept.value ≠ 0 && !below then .error (stopped.fault .numberOutOfRange 0)
      else .ok (.real negative ⟨0, Number.binary64.minExponent⟩, (digitRun cursor).2)

theorem exists_exponentDigits {digits : List Char} (areDigits : AreDigits digits)
    (negative below : Bool) (kept : Significand) :
    ∃ value?, ∀ rest, NoDigit rest → ∀ offset,
      Gives (exponentDigits negative below kept ⟨digits ++ rest, offset⟩) value? rest := by
  rcases exists_exponentValue digits 0 with ⟨total, reads⟩ | stops
  · refine ⟨Option.map (Json.Number.real negative) (Significand.real?
      ⟨kept.value, kept.exponent + if below then -(total : Int) else total⟩), ?_⟩
    intro rest noDigit offset
    rcases reads ⟨digits ++ rest, offset⟩ with ⟨after, equal⟩
    rw [exponentDigits, digitRun_digits areDigits noDigit, equal]
    exact gives_realAt negative _ rest _
  · cases lost : kept.value ≠ 0 && !below with
    | true =>
        refine ⟨none, ?_⟩
        intro rest noDigit offset
        rcases stops ⟨digits ++ rest, offset⟩ with ⟨stopped, equal⟩
        rw [exponentDigits, digitRun_digits areDigits noDigit, equal]
        exact ⟨_, if_pos lost⟩
    | false =>
        refine ⟨some (.real negative ⟨0, Number.binary64.minExponent⟩), ?_⟩
        intro rest noDigit offset
        rcases stops ⟨digits ++ rest, offset⟩ with ⟨stopped, equal⟩
        rw [exponentDigits, digitRun_digits areDigits noDigit, equal]
        exact ⟨_, if_neg (by rw [lost]; exact Bool.false_ne_true)⟩

def exponentSign (cursor : Cursor) : Bool × Cursor :=
  match cursor.rest with
  | '+' :: rest => (false, cursor.next rest)
  | '-' :: rest => (true, cursor.next rest)
  | _ => (false, cursor)

def unsignedExponentPart (negative : Bool) (kept : Significand) (sign : Bool × Cursor) :
    Except Fault (Json.Number × Cursor) :=
  match sign.2.rest with
  | [] => .error (sign.2.fault .endBeforeValue 0)
  | c :: _ =>
      if c.isDigit then exponentDigits negative sign.1 kept sign.2
      else .error (sign.2.fault .invalidNumber 1)

theorem exponentPart_eq {negative below : Bool} {kept : Significand} {cursor : Cursor} {c : Char}
    {rest : List Char} {offset : Nat} (signed : exponentSign cursor = (below, ⟨c :: rest, offset⟩))
    (isDigit : c.isDigit = true) :
    exponentPart negative kept cursor =
      exponentDigits negative below kept ⟨c :: rest, offset⟩ := by
  have parts : exponentPart negative kept cursor =
      unsignedExponentPart negative kept (exponentSign cursor) := rfl
  rw [parts, signed]
  exact if_pos isDigit

theorem exponentSign_sign {exponent : Exponent} (proper : exponent.IsProper) :
    ∃ below, ∀ rest offset, ∃ behind,
      exponentSign ⟨exponent.sign ++ (exponent.digits ++ rest), offset⟩ =
        (below, ⟨exponent.digits ++ rest, behind⟩) := by
  rcases List.exists_cons_of_ne_nil proper.nonempty with ⟨c, more, equal⟩
  have isDigit : c.isDigit = true := proper.digits c (equal ▸ List.mem_cons_self)
  have isSign := proper.sign
  simp only [List.mem_cons, List.not_mem_nil, or_false] at isSign
  rw [equal]
  rcases isSign with none | plus | minus
  · refine ⟨false, fun rest offset => ⟨offset, ?_⟩⟩
    rw [none, exponentSign]
    split
    · rename_i startsWith
      exact absurd (List.cons.inj startsWith).1 (isDigit_ne isDigit (by decide))
    · rename_i startsWith
      exact absurd (List.cons.inj startsWith).1 (isDigit_ne isDigit (by decide))
    · rfl
  · exact ⟨false, fun rest offset => ⟨offset + 1, by rw [plus]; rfl⟩⟩
  · exact ⟨true, fun rest offset => ⟨offset + 1, by rw [minus]; rfl⟩⟩

theorem exists_exponentPart {exponent : Exponent} (proper : exponent.IsProper) (negative : Bool)
    (kept : Significand) :
    ∃ value?, ∀ rest, NoDigit rest → ∀ offset,
      Gives (exponentPart negative kept ⟨exponent.sign ++ exponent.digits ++ rest, offset⟩)
        value? rest := by
  rcases exponentSign_sign proper with ⟨below, signed⟩
  rcases exists_exponentDigits proper.digits negative below kept with ⟨value?, gives⟩
  rcases List.exists_cons_of_ne_nil proper.nonempty with ⟨c, more, equal⟩
  have isDigit : c.isDigit = true := proper.digits c (equal ▸ List.mem_cons_self)
  refine ⟨value?, ?_⟩
  intro rest noDigit offset
  rcases signed rest offset with ⟨behind, isSigned⟩
  have given := gives rest noDigit behind
  rw [equal] at given isSigned ⊢
  rw [List.append_assoc, exponentPart_eq isSigned isDigit]
  exact given

def numberEnd (negative : Bool) (kept : Significand)
    (plain : Cursor → Except Fault (Json.Number × Cursor)) (cursor : Cursor) :
    Except Fault (Json.Number × Cursor) :=
  match cursor.rest with
  | 'e' :: rest => exponentPart negative kept (cursor.next rest)
  | 'E' :: rest => exponentPart negative kept (cursor.next rest)
  | _ => plain cursor

theorem exists_numberEnd {numeral : Numeral} (proper : numeral.IsProper) (negative : Bool)
    (kept : Significand) {plain : Cursor → Except Fault (Json.Number × Cursor)}
    (ends : ∃ value?, ∀ rest offset, Gives (plain ⟨rest, offset⟩) value? rest) :
    ∃ value?, ∀ rest, IsBoundary rest → ∀ offset,
      Gives (numberEnd negative kept plain ⟨numeral.exponentChars ++ rest, offset⟩)
        value? rest := by
  rw [Numeral.exponentChars]
  cases has : numeral.exponent with
  | none =>
      rcases ends with ⟨value?, gives⟩
      refine ⟨value?, ?_⟩
      intro rest boundary offset
      rw [numberEnd]
      split
      · rename_i more startsWith
        cases show rest = 'e' :: more from startsWith
        exact absurd rfl (boundary 'e' rfl).2.2.1
      · rename_i more startsWith
        cases show rest = 'E' :: more from startsWith
        exact absurd rfl (boundary 'E' rfl).2.2.2
      · exact gives rest offset
  | some exponent =>
      have isProper := proper.exponent exponent has
      rcases exists_exponentPart isProper negative kept with ⟨value?, gives⟩
      refine ⟨value?, ?_⟩
      intro rest boundary offset
      have given := gives rest boundary.noDigit (offset + 1)
      have chars : (Option.map Exponent.chars (some exponent)).getD [] ++ rest =
          exponent.mark :: (exponent.sign ++ exponent.digits ++ rest) := rfl
      rw [chars]
      rcases isProper.mark with isMark | isMark
      · rw [isMark]
        exact given
      · rw [isMark]
        exact given

theorem head?_exponentChars {numeral : Numeral} (proper : numeral.IsProper) {rest : List Char}
    (boundary : IsBoundary rest) :
    ∀ c ∈ (numeral.exponentChars ++ rest).head?, c.isDigit = false ∧ c ≠ '.' := by
  rw [Numeral.exponentChars]
  cases has : numeral.exponent with
  | none =>
      intro c isFirst
      have ends := boundary c isFirst
      exact ⟨ends.1, ends.2.1⟩
  | some exponent =>
      intro c isFirst
      cases isFirst
      rcases (proper.exponent exponent has).mark with isMark | isMark
      all_goals
        rw [isMark]
        decide

theorem noDigit_exponentChars {numeral : Numeral} (proper : numeral.IsProper) {rest : List Char}
    (boundary : IsBoundary rest) : NoDigit (numeral.exponentChars ++ rest) :=
  fun c isFirst => (head?_exponentChars proper boundary c isFirst).1

theorem fractionPart_digits {numeral : Numeral} (proper : numeral.IsProper)
    (nonempty : numeral.fraction ≠ []) (negative : Bool) (kept : Significand) {rest : List Char}
    (boundary : IsBoundary rest) (offset : Nat) :
    fractionPart negative kept ⟨numeral.fraction ++ (numeral.exponentChars ++ rest), offset⟩ =
      numberEnd negative (withFraction numeral.fraction kept)
        (realAt negative (withFraction numeral.fraction kept))
        ⟨numeral.exponentChars ++ rest, offset + numeral.fraction.length⟩ := by
  have noDigit := noDigit_exponentChars proper boundary
  rw [fractionPart, digitRun_digits proper.fraction noDigit]
  dsimp only
  rw [if_neg (by simpa using nonempty)]
  rfl

/-- A number that is an integer unless it is too large, or zero with a sign. -/
def wholeNumber (negative : Bool) (kept : Significand) (cursor : Cursor) :
    Except Fault (Json.Number × Cursor) :=
  if kept.exponent ≠ 0 then realAt negative kept cursor
  else if !negative then .ok (.integer kept.value, cursor)
  else if kept.value = 0 ∨ Nat.pow 2 63 < kept.value then realAt true kept cursor
  else .ok (.integer (-kept.value), cursor)

theorem exists_wholeNumber (negative : Bool) (kept : Significand) :
    ∃ value?, ∀ rest offset, Gives (wholeNumber negative kept ⟨rest, offset⟩) value? rest := by
  simp only [wholeNumber]
  split
  · exact ⟨_, gives_realAt negative kept⟩
  · split
    · exact ⟨some (.integer kept.value), fun rest offset => ⟨offset, rfl⟩⟩
    · split
      · exact ⟨_, gives_realAt true kept⟩
      · exact ⟨some (.integer (-kept.value)), fun rest offset => ⟨offset, rfl⟩⟩

def wholeEnd (negative : Bool) (kept : Significand) (cursor : Cursor) :
    Except Fault (Json.Number × Cursor) :=
  match cursor.rest with
  | '.' :: rest => fractionPart negative kept (cursor.next rest)
  | 'e' :: rest => exponentPart negative kept (cursor.next rest)
  | 'E' :: rest => exponentPart negative kept (cursor.next rest)
  | _ => wholeNumber negative kept cursor

theorem Numeral.IsProper.exists_whole {numeral : Numeral} (proper : numeral.IsProper)
    {rest : List Char} (noDigit : NoDigit rest) :
    ∃ c more, numeral.whole = c :: more ∧ c.isDigit = true ∧
      (c = '0' && ((more ++ rest).head?.map Char.isDigit).getD false) = false := by
  rcases List.exists_cons_of_ne_nil proper.nonempty with ⟨c, more, equal⟩
  refine ⟨c, more, equal, proper.whole c (equal ▸ List.mem_cons_self), ?_⟩
  by_cases isZero : c = '0'
  · have zero := proper.zero (by rw [equal, isZero]; rfl)
    rw [equal] at zero
    cases zero
    cases rest with
    | nil => rfl
    | cons next rest => simp [noDigit next rfl]
  · simp [isZero]

theorem unsignedNumber_whole {numeral : Numeral} (proper : numeral.IsProper) (negative : Bool)
    {rest : List Char} (noDigit : NoDigit rest) (offset : Nat) :
    unsignedNumber negative ⟨numeral.whole ++ rest, offset⟩ =
      wholeEnd negative (wholeSignificand numeral.whole)
        ⟨rest, offset + numeral.whole.length⟩ := by
  have run := digitRun_digits proper.whole noDigit offset
  rcases proper.exists_whole noDigit with ⟨c, more, equal, isDigit, single⟩
  rw [equal] at run ⊢
  rw [List.cons_append] at run ⊢
  rw [unsignedNumber]
  simp only [isDigit, Bool.not_true, Bool.false_eq_true, if_false, single, run]
  rfl

theorem wholeEnd_eq {negative : Bool} {kept : Significand} {rest : List Char} {offset : Nat}
    (noPoint : ∀ c ∈ rest.head?, c ≠ '.') :
    wholeEnd negative kept ⟨rest, offset⟩ =
      numberEnd negative kept (wholeNumber negative kept) ⟨rest, offset⟩ := by
  rw [wholeEnd, numberEnd]
  cases rest with
  | nil => rfl
  | cons c rest =>
      have notPoint := noPoint c rfl
      split
      · rename_i startsWith
        cases startsWith
        exact absurd rfl notPoint
      · rename_i startsWith
        cases startsWith
        rfl
      · rename_i startsWith
        cases startsWith
        rfl
      · split <;> simp_all

theorem exists_unsignedNumber {numeral : Numeral} (proper : numeral.IsProper) (negative : Bool) :
    ∃ value?, ∀ rest, IsBoundary rest → ∀ offset,
      Gives (unsignedNumber negative ⟨numeral.unsigned ++ rest, offset⟩) value? rest := by
  simp only [Numeral.unsigned, Numeral.fractionChars, List.append_assoc]
  by_cases none : numeral.fraction = []
  · simp only [if_pos none, List.nil_append]
    rcases exists_numberEnd proper negative (wholeSignificand numeral.whole)
      (exists_wholeNumber negative (wholeSignificand numeral.whole)) with ⟨value?, gives⟩
    refine ⟨value?, ?_⟩
    intro rest boundary offset
    have noPoint : ∀ c ∈ (numeral.exponentChars ++ rest).head?, c ≠ '.' :=
      fun c isFirst => (head?_exponentChars proper boundary c isFirst).2
    rw [unsignedNumber_whole proper negative (noDigit_exponentChars proper boundary),
      wholeEnd_eq noPoint]
    exact gives rest boundary _
  · rcases exists_numberEnd proper negative
      (withFraction numeral.fraction (wholeSignificand numeral.whole))
      ⟨_, gives_realAt negative _⟩ with ⟨value?, gives⟩
    refine ⟨value?, ?_⟩
    intro rest boundary offset
    rw [if_neg none, unsignedNumber_whole proper negative (fun c isFirst => by cases isFirst; rfl)]
    have step := fractionPart_digits proper none negative (wholeSignificand numeral.whole) boundary
      (offset + numeral.whole.length + 1)
    have point : wholeEnd negative (wholeSignificand numeral.whole)
        ⟨'.' :: numeral.fraction ++ (numeral.exponentChars ++ rest),
          offset + numeral.whole.length⟩ = _ := step
    rw [point]
    exact gives rest boundary _

/-- What a numeral is worth, if it is in range. -/
def Numeral.value? (numeral : Numeral) : Option Json.Number :=
  (unsignedNumber numeral.negative ⟨numeral.unsigned, 0⟩).toOption.map Prod.fst

theorem gives_unsignedNumber {numeral : Numeral} (proper : numeral.IsProper) {rest : List Char}
    (boundary : IsBoundary rest) (offset : Nat) :
    Gives (unsignedNumber numeral.negative ⟨numeral.unsigned ++ rest, offset⟩) numeral.value?
      rest := by
  rcases exists_unsignedNumber proper numeral.negative with ⟨value?, gives⟩
  have alone := gives [] (fun _ isFirst => by cases isFirst) 0
  rw [List.append_nil] at alone
  have same : numeral.value? = value? := alone.value?_eq
  rw [same]
  exact gives rest boundary offset

end Bulletin.Json
