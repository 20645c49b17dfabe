import Bulletin.Json.Writer
import Bulletin.Json.Scan.Text
import Bulletin.Proofs.Outcome
/-!
# Strings read back

The scanner of strings reads every character that the writer has written, escaped or not.
-/

namespace Bulletin.Json

def Reads (result : Except Fault (α × Cursor)) (value : α) (rest : List Char) : Prop :=
  ∃ offset, result = .ok (value, ⟨rest, offset⟩)

theorem Reads.map {result : Except Fault (α × Cursor)} {value : α} {rest : List Char}
    (reads : Reads result value rest) (f : α → β) :
    Reads (result.map fun (value, after) => (f value, after)) (f value) rest := by
  rcases reads with ⟨offset, rfl⟩
  exact ⟨offset, rfl⟩

/-! ## Escapes -/

theorem hexCode_hexDigits {code : Nat} (small : code < 0x20) (rest : List Char) (offset : Nat) :
    hexCode ⟨Number.hexDigits 4 code ++ rest, offset⟩ = .ok (code, ⟨rest, offset + 4⟩) := by
  have digits : ∀ code : Fin 0x20, ∃ a b c d, Number.hexDigits 4 code.val = [a, b, c, d] ∧
      ([a, b, c, d].mapM Number.hexValue?).map
        (fun digits => digits.foldl (fun code digit => 16 * code + digit.val) 0) =
          some code.val := by
    intro code
    refine ⟨_, _, _, _, rfl, ?_⟩
    revert code
    decide
  rcases digits ⟨code, small⟩ with ⟨a, b, c, d, equal, value⟩
  rcases Option.map_eq_some_iff.mp value with ⟨read, inDigits, total⟩
  rw [equal, hexCode]
  simp only [List.cons_append, List.nil_append, inDigits, total]

theorem escape_hexDigits {c : Char} (control : c.toNat < 0x20) (rest : List Char)
    (offset : Nat) :
    escape ⟨'u' :: (Number.hexDigits 4 c.toNat ++ rest), offset⟩ = .ok (c, ⟨rest, offset + 5⟩) := by
  have digits := hexCode_hexDigits control rest (offset + 1)
  have notLow : ¬(0xDC00 ≤ c.toNat ∧ c.toNat ≤ 0xDFFF) := by omega
  have notHigh : c.toNat < 0xD800 ∨ 0xDBFF < c.toNat := by omega
  rw [escape]
  simp only [Cursor.next, codeEscape, digits, Outcome.ok_bind, if_neg notLow, if_pos notHigh,
    Char.ofNat_toNat]

/-! ## Whole strings -/

theorem stringBody_charText (c : Char) (limit : Nat) (read rest : List Char) (offset : Nat) :
    ∃ behind, stringBody (limit + 1) read ⟨charText c ++ rest, offset⟩ =
      stringBody limit (c :: read) ⟨rest, behind⟩ := by
  unfold charText
  -- The seven characters with an escape of one letter.
  iterate 7
    split
    · rename_i same
      subst same
      exact ⟨_, rfl⟩
  rename_i notQuote notBackslash _ _ _ _ _
  split
  case isTrue control =>
    have escaped := escape_hexDigits control rest (offset + 1)
    rw [List.cons_append, List.cons_append, stringBody]
    simp only [Cursor.next, escaped, Outcome.ok_bind]
    exact ⟨_, rfl⟩
  case isFalse notControl =>
    refine ⟨offset + c.utf8Size, ?_⟩
    rw [List.singleton_append, stringBody]
    split
    case h_1 equal => cases equal
    case h_2 equal => exact absurd (List.cons.inj equal).1 notQuote
    case h_3 equal => exact absurd (List.cons.inj equal).1 notBackslash
    case h_4 equal =>
      cases equal
      exact if_neg notControl

/-- A written string is read up to its closing quote. -/
theorem reads_stringBody (chars : List Char) {limit : Nat} (read rest : List Char) (offset : Nat)
    (enough : chars.length < limit) :
    Reads (stringBody limit read ⟨chars.flatMap charText ++ '"' :: rest, offset⟩)
      (String.ofList (read.reverse ++ chars)) rest := by
  rcases Nat.exists_eq_add_one_of_ne_zero (by omega : limit ≠ 0) with ⟨limit, rfl⟩
  induction chars generalizing limit read offset with
  | nil => exact ⟨_, by rw [List.append_nil]; rfl⟩
  | cons c chars induction =>
      rw [List.length_cons] at enough
      rcases stringBody_charText c limit read (chars.flatMap charText ++ '"' :: rest) offset with
        ⟨behind, step⟩
      rw [List.flatMap_cons, List.append_assoc, step]
      rcases Nat.exists_eq_add_one_of_ne_zero (by omega : limit ≠ 0) with ⟨limit, rfl⟩
      have reads := induction (c :: read) behind limit (by omega)
      rwa [List.reverse_cons, List.append_assoc] at reads

theorem length_le_length_charText (c : Char) : 1 ≤ (charText c).length := by
  unfold charText
  repeat' split
  all_goals simp

theorem length_le_length_stringText (value : String) :
    value.toList.length + 2 ≤ (stringText value).length := by
  have chars : value.toList.length ≤ (value.toList.flatMap charText).length := by
    induction value.toList with
    | nil => simp
    | cons c chars induction =>
        have one := length_le_length_charText c
        rw [List.flatMap_cons, List.length_append, List.length_cons]
        omega
  simp only [stringText, List.length_cons, List.length_append, List.cons_append,
    List.length_nil]
  omega

end Bulletin.Json
