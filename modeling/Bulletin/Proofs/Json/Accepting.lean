import Bulletin.Proofs.Json.Altering
import Bulletin.Proofs.Json.Parsing
/-!
# Formats that read JSON

Every text that a format accepts is the text of an outline, whatever is read of it and whatever is
passed over.
-/

namespace Bulletin.Json

def Format.ReadsValues (format : Format α) : Prop :=
  ∀ allowance cursor value after, format.read allowance cursor = .ok (value, after) →
    HasValue cursor.rest after.rest

namespace Format

variable {format : Format α}

theorem readsValues_any : any.ReadsValues :=
  fun _ _ _ _ read => hasValue_of_readValue read

theorem readsValues_text : text.ReadsValues := by
  intro allowance cursor value after read
  apply hasValue_of_skipSpaces
  simp only [text] at read
  split at read
  · rename_i rest startsWith
    rw [startsWith]
    exact hasValue_of_parts (exists_parts_of_stringBody read)
  · cases read

theorem readsValues_flag : flag.ReadsValues := by
  intro allowance cursor value after read
  apply hasValue_of_skipSpaces
  simp only [flag] at read
  split at read
  · rename_i rest startsWith
    rcases Outcome.map_eq_ok.mp read with ⟨reached, letters, equal⟩
    cases equal
    exact hasValue_of_expectLetters spells_true startsWith letters
  · rename_i rest startsWith
    rcases Outcome.map_eq_ok.mp read with ⟨reached, letters, equal⟩
    cases equal
    exact hasValue_of_expectLetters spells_false startsWith letters
  · cases read

theorem ReadsValues.map (reads : format.ReadsValues) (f : α → β) : (format.map f).ReadsValues := by
  intro allowance cursor value after read
  rcases Outcome.map_eq_ok.mp read with ⟨⟨inner, behind⟩, readInner, equal⟩
  cases equal
  exact reads allowance cursor inner after readInner

theorem ReadsValues.defaulted (reads : format.ReadsValues) {name : String} {put : α → σ → σ} :
    (Field.defaulted name format put).update.ReadsValues :=
  reads.map put

theorem ReadsValues.required (reads : format.ReadsValues) {name : String} {put : α → σ → σ} :
    (Field.required name format put).update.ReadsValues :=
  reads.map put

theorem ReadsValues.optional (reads : format.ReadsValues) : format.optional.ReadsValues := by
  intro allowance cursor value after read
  apply hasValue_of_skipSpaces
  simp only [Format.optional] at read
  split at read
  · rename_i rest startsWith
    rcases Outcome.map_eq_ok.mp read with ⟨reached, letters, equal⟩
    cases equal
    exact hasValue_of_expectLetters spells_null startsWith letters
  · exact reads.map some allowance cursor.skipSpaces value after read

theorem hasValue_of_inArray {allowance : Allowance} {cursor after : Cursor} {rest : List Char}
    {contents : Allowance → Cursor → Except Fault (α × Cursor)} {value : α}
    (startsWith : cursor.rest = '[' :: rest)
    (inside : ∀ inner cursor behind after, contents inner cursor = .ok (value, behind) →
      closeArray behind = .ok after → HasItems true cursor.rest after.rest)
    (read : inArray allowance cursor rest contents = .ok (value, after)) :
    HasValue cursor.rest after.rest := by
  rw [inArray] at read
  split at read
  · cases read
  · rcases settle_eq_ok.mp read with ⟨behind, readContents, closed⟩
    rw [startsWith]
    exact (inside _ _ _ _ readContents closed).hasValue

theorem hasValue_of_inObject {allowance : Allowance} {cursor after : Cursor} {rest : List Char}
    {contents : Allowance → Cursor → Except Fault (α × Cursor)} {value : α}
    (startsWith : cursor.rest = '\x7b' :: rest)
    (inside : ∀ inner cursor behind after, contents inner cursor = .ok (value, behind) →
      closeObject behind = .ok after → HasMembers true cursor.rest after.rest)
    (read : inObject allowance cursor rest contents = .ok (value, after)) :
    HasValue cursor.rest after.rest := by
  rw [inObject] at read
  split at read
  · cases read
  · rcases settle_eq_ok.mp read with ⟨behind, readContents, closed⟩
    rw [startsWith]
    exact (inside _ _ _ _ readContents closed).hasValue

theorem ReadsValues.list (reads : format.ReadsValues) : format.list.ReadsValues := by
  intro allowance cursor values after read
  apply hasValue_of_skipSpaces
  simp only [Format.list] at read
  split at read
  · rename_i rest startsWith
    refine hasValue_of_inArray startsWith ?_ read
    intro inner cursor behind after contents closed
    rcases Outcome.map_eq_ok.mp contents with ⟨⟨read, reached⟩, folded, equal⟩
    cases equal
    refine hasItems_of_foldItems ?_ folded closed
    intro state cursor next after taken
    rcases Outcome.map_eq_ok.mp taken with ⟨⟨value, reached⟩, readValue, equal⟩
    cases equal
    exact reads inner cursor value _ readValue
  · cases read

end Format

namespace RecordShape

variable {shape : RecordShape σ}

theorem hasMemberValue_of_readMember
    (fields : ∀ field ∈ shape.fields, field.update.ReadsValues) {allowance : Allowance}
    {draft next : Draft σ} {key : String} {cursor after : Cursor}
    (read : shape.readMember allowance draft key cursor = .ok (next, after)) :
    HasMemberValue cursor.rest after.rest := by
  rw [readMember] at read
  split at read
  · rcases Outcome.bind_eq_ok.mp read with ⟨atValue, isColon, read⟩
    rcases Outcome.bind_eq_ok.mp read with ⟨behind, skipped, equal⟩
    cases equal
    exact hasMemberValue_of_colon isColon (hasValue_of_skipValue skipped)
  · rename_i field known
    split at read
    · cases read
    · rcases Outcome.bind_eq_ok.mp read with ⟨atValue, isColon, read⟩
      rcases Outcome.bind_eq_ok.mp read with ⟨⟨change, behind⟩, readChange, equal⟩
      cases equal
      have reads := fields field (List.mem_of_find?_eq_some known)
      exact hasMemberValue_of_colon isColon (reads allowance atValue change after readChange)

theorem hasItems_of_readItems {allowance : Allowance} {fields : List (Field σ)}
    (reads : ∀ field ∈ fields, field.update.ReadsValues) {index : Nat} {first : Bool}
    {value result : σ} {cursor behind after : Cursor}
    (read : shape.readItems allowance fields index first value cursor = .ok (result, behind))
    (closed : closeArray behind = .ok after) : HasItems first cursor.rest after.rest := by
  induction fields generalizing index first value cursor with
  | nil =>
      cases read
      exact hasItems_of_closeArray closed first
  | cons field fields induction =>
      rcases List.forall_mem_cons.mp reads with ⟨readsField, readsFields⟩
      rw [readItems] at read
      rcases Outcome.bind_eq_ok.mp read with ⟨⟨more, here⟩, next, read⟩
      dsimp only at read
      cases more with
      | true =>
          rcases Outcome.bind_eq_ok.mp read with ⟨⟨change, reached⟩, readChange, read⟩
          rcases exists_lead_of_nextItem next with ⟨lead, isLead, equal⟩
          rw [equal]
          exact (readsField _ _ _ _ readChange).items isLead (induction readsFields read)
      | false =>
          rw [if_neg Bool.false_ne_true] at read
          split at read
          · cases read
          · rcases exists_gap_of_nextItem next with ⟨gap, isGap, equal⟩
            rw [equal]
            exact (induction readsFields read).of_gap isGap

theorem readsValues_format (fields : ∀ field ∈ shape.fields, field.update.ReadsValues) :
    shape.format.ReadsValues := by
  intro allowance cursor value after read
  apply hasValue_of_skipSpaces
  simp only [format, RecordShape.read] at read
  split at read
  · rename_i rest startsWith
    refine Format.hasValue_of_inArray startsWith ?_ read
    intro inner cursor behind after contents closed
    exact hasItems_of_readItems fields contents closed
  · rename_i rest startsWith
    refine Format.hasValue_of_inObject startsWith ?_ read
    intro inner cursor behind after contents closed
    rcases Outcome.bind_eq_ok.mp contents with ⟨⟨draft, reached⟩, folded, contents⟩
    have same : reached = behind := by
      dsimp only at contents
      split at contents
      · cases contents
      · cases contents
        rfl
    subst same
    refine hasMembers_of_foldMembers ?_ folded closed
    exact fun _ _ _ _ _ read => hasMemberValue_of_readMember fields read
  · cases read

end RecordShape

/-! ## Whole texts -/

theorem Format.ReadsValues.exists_outline {format : Format α} (reads : format.ReadsValues)
    {text : String} {value : α} (parsed : format.parse text = .ok value) :
    ∃ outline : Outline, outline.IsOutlineOf text := by
  rcases readWhole_eq_ok.mp parsed with ⟨found, read, ended⟩
  rcases reads _ _ _ _ read with ⟨gap, item, outline, isGap, spells, equal⟩
  rcases exists_gap found with ⟨behind, isBehind, equalBehind⟩
  have nothing : found.skipSpaces.rest = [] := by
    rw [expectEnd] at ended
    split at ended
    · assumption
    · cases ended
  rw [nothing, List.append_nil] at equalBehind
  exact ⟨outline, gap, item, behind, isGap, spells, isBehind, equalBehind ▸ equal⟩

theorem Format.ReadsValues.exists_items {format : Format α} (reads : format.ReadsValues)
    {text : String} {values : List α} (parsed : format.list.parse text = .ok values) :
    ∃ items, (Outline.array items).IsOutlineOf text := by
  rcases reads.list.exists_outline parsed with ⟨outline, isOutline⟩
  by_cases isArray : ∃ items, outline = .array items
  · rcases isArray with ⟨items, rfl⟩
    exact ⟨items, isOutline⟩
  · have tells : outline.Tells format.list.read 127 none :=
      Format.tells_list_none (fun items equal => isArray ⟨items, equal⟩) 127
    have nothing := toOption_parse tells isOutline
    rw [parsed] at nothing
    cases nothing

theorem exists_items_of_parse_eq_array {text : String} {values : Items}
    (parsed : parse text = .ok (.array values)) :
    ∃ items, (Outline.array items).IsOutlineOf text := by
  have parsedAny : Format.any.parse text = .ok (.array values) := parsed
  rcases Format.readsValues_any.exists_outline parsedAny with ⟨outline, isOutline⟩
  have told {value? : Option Json} (tells : outline.Tells Format.any.read 127 value?) :
      value? = some (.array values) := by
    rw [← toOption_parse tells isOutline, parsedAny]
    rfl
  cases outline with
  | array items => exact ⟨items, isOutline⟩
  | null => cases told (tells_any_null 127)
  | boolean value => cases told (tells_any_boolean value 127)
  | number numeral =>
      rcases Option.map_eq_some_iff.mp (told (tells_any_number numeral 127)) with ⟨_, -, equal⟩
      cases equal
  | text parts =>
      rcases Option.map_eq_some_iff.mp (told (tells_any_text parts 127)) with ⟨_, -, equal⟩
      cases equal
  | object members =>
      rcases exists_tell 126 with ⟨tell, tellsObject, -⟩
      rcases Option.map_eq_some_iff.mp (told (tellsObject members)) with ⟨_, -, equal⟩
      cases equal

end Bulletin.Json
