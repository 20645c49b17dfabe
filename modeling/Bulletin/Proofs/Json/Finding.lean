import Bulletin.Json.Format
import Bulletin.Proofs.Json.Reading
/-!
# Finding values by their formats

A format reads a text directly, without a value in between. Where the text holds a value, it finds
there what it finds in the value.
-/

namespace Bulletin.Json

/-! ## What a value is read from -/

def collectItem (steps depth : Nat) (items : List Json) (cursor : Cursor) :
    Except Fault (List Json × Cursor) :=
  (readValue steps depth cursor).map fun (value, after) => (value :: items, after)

def collectMember (steps depth : Nat) (members : List (String × Json)) (key : String)
    (cursor : Cursor) : Except Fault (List (String × Json) × Cursor) := do
  let (value, after) ← readValue steps depth (← colon cursor)
  .ok ((key, value) :: members, after)

/-- How a value was read from a cursor that is at no blank. -/
def WasRead (steps depth : Nat) (cursor after : Cursor) : Json → Prop
  | .null => ∃ rest, cursor.rest = 'n' :: rest ∧
      expectLetters ['u', 'l', 'l'] (cursor.next rest) = .ok after
  | .boolean true => ∃ rest, cursor.rest = 't' :: rest ∧
      expectLetters ['r', 'u', 'e'] (cursor.next rest) = .ok after
  | .boolean false => ∃ rest, cursor.rest = 'f' :: rest ∧
      expectLetters ['a', 'l', 's', 'e'] (cursor.next rest) = .ok after
  | .number _ => ∃ c rest, cursor.rest = c :: rest ∧ (c = '-' ∨ c.isDigit = true)
  | .text value => ∃ rest, cursor.rest = '"' :: rest ∧
      stringBody steps [] (cursor.next rest) = .ok (value, after)
  | .array items => ∃ rest inner behind, cursor.rest = '[' :: rest ∧ depth = inner + 1 ∧
      foldItems (collectItem steps inner) steps true [] (cursor.next rest) =
        .ok (items.toList.reverse, behind) ∧
      closeArray behind = .ok after
  | .object members => ∃ rest inner behind, cursor.rest = '\x7b' :: rest ∧ depth = inner + 1 ∧
      foldMembers (collectMember steps inner) steps steps true [] (cursor.next rest) =
        .ok (members.toList.reverse, behind) ∧
      closeObject behind = .ok after

theorem settle_eq_ok {close : Cursor → Except Fault Cursor} {afterClose : Cursor → Cursor}
    {contents : Except Fault (α × Cursor)} {value : α} {after : Cursor} :
    settle close afterClose contents = .ok (value, after) ↔
      ∃ behind, contents = .ok (value, behind) ∧ close behind = .ok after := by
  rcases contents with (_ | _) | ⟨found, behind⟩
  · simp [settle]
  · simp [settle]
  · simp only [settle, Outcome.map_eq_ok, Prod.mk.injEq, Except.ok.injEq]
    constructor
    · rintro ⟨reached, closed, rfl, rfl⟩
      exact ⟨behind, ⟨rfl, rfl⟩, closed⟩
    · rintro ⟨_, ⟨rfl, rfl⟩, closed⟩
      exact ⟨after, closed, rfl, rfl⟩

theorem wasRead_of_readValue {steps depth : Nat} {cursor after : Cursor} {value : Json}
    (read : readValue steps depth cursor = .ok (value, after)) :
    WasRead steps depth cursor.skipSpaces after value := by
  rw [readValue] at read
  generalize cursor.skipSpaces = here at read ⊢
  split at read
  case h_1 => cases read
  case h_2 rest equal =>
    simp only [Outcome.map_eq_ok, Prod.mk.injEq] at read
    rcases read with ⟨reached, letters, rfl, rfl⟩
    exact ⟨rest, equal, letters⟩
  case h_3 rest equal =>
    simp only [Outcome.map_eq_ok, Prod.mk.injEq] at read
    rcases read with ⟨reached, letters, rfl, rfl⟩
    exact ⟨rest, equal, letters⟩
  case h_4 rest equal =>
    simp only [Outcome.map_eq_ok, Prod.mk.injEq] at read
    rcases read with ⟨reached, letters, rfl, rfl⟩
    exact ⟨rest, equal, letters⟩
  case h_5 rest equal =>
    simp only [Outcome.map_eq_ok, Prod.mk.injEq] at read
    rcases read with ⟨reached, digits, rfl, rfl⟩
    exact ⟨'-', rest, equal, .inl rfl⟩
  case h_6 rest equal =>
    simp only [Outcome.map_eq_ok, Prod.mk.injEq] at read
    rcases read with ⟨⟨text, reached⟩, body, rfl, rfl⟩
    exact ⟨rest, equal, body⟩
  case h_7 rest equal =>
    split at read
    case h_1 => cases read
    case h_2 inner =>
      simp only [Outcome.map_eq_ok, Prod.mk.injEq] at read
      rcases read with ⟨⟨items, reached⟩, settled, rfl, rfl⟩
      rcases settle_eq_ok.mp settled with ⟨behind, folded, closed⟩
      refine ⟨rest, inner, behind, equal, rfl, ?_, closed⟩
      rw [Items.toList_ofList, List.reverse_reverse]
      exact folded
  case h_8 rest equal =>
    split at read
    case h_1 => cases read
    case h_2 inner =>
      simp only [Outcome.map_eq_ok, Prod.mk.injEq] at read
      rcases read with ⟨⟨members, reached⟩, settled, rfl, rfl⟩
      rcases settle_eq_ok.mp settled with ⟨behind, folded, closed⟩
      refine ⟨rest, inner, behind, equal, rfl, ?_, closed⟩
      rw [Members.toList_ofList, List.reverse_reverse]
      exact folded
  case h_9 c rest _ _ _ _ _ _ _ equal =>
    split at read
    case isTrue isDigit =>
      simp only [Outcome.map_eq_ok, Prod.mk.injEq] at read
      rcases read with ⟨reached, digits, rfl, rfl⟩
      exact ⟨c, rest, equal, .inr isDigit⟩
    case isFalse => cases read

theorem skipSpaces_skipSpaces (cursor : Cursor) :
    cursor.skipSpaces.skipSpaces = cursor.skipSpaces := by
  have settled (rest : List Char) (offset : Nat) :
      (skipSpaces rest offset).skipSpaces = skipSpaces rest offset := by
    induction rest generalizing offset with
    | nil => rfl
    | cons c rest induction =>
        rw [skipSpaces]
        split
        · exact induction (offset + 1)
        · rename_i notBlank
          exact skipSpaces_cons (Bool.not_eq_true _ ▸ notBlank) rest offset
  exact settled cursor.rest cursor.offset

theorem readValue_skipSpaces (steps depth : Nat) (cursor : Cursor) :
    readValue steps depth cursor.skipSpaces = readValue steps depth cursor := by
  rw [readValue, skipSpaces_skipSpaces, readValue]

theorem eq_null_of_wasRead {steps depth : Nat} {cursor after : Cursor} {value : Json}
    {rest : List Char} (wasRead : WasRead steps depth cursor after value)
    (startsWith : cursor.rest = 'n' :: rest) : value = .null := by
  cases value with
  | null => rfl
  | boolean value => cases value <;> simp_all [WasRead]
  | number value =>
      rcases wasRead with ⟨c, others, equal, isNumber⟩
      rw [startsWith] at equal
      cases equal
      exact absurd isNumber (by decide)
  | text value => simp_all [WasRead]
  | array items => simp_all [WasRead]
  | object members => simp_all [WasRead]

/-! ## Runs over items and members -/

inductive Run (step : σ → β → σ → Prop) : σ → List β → σ → Prop where
  | nil {state : σ} : Run step state [] state
  | cons {state next last : σ} {item : β} {items : List β} (first : step state item next)
      (rest : Run step next items last) : Run step state (item :: items) last

/-- Where the values of an array can be collected, any step that takes each of them succeeds. -/
theorem foldItems_of_run {steps depth : Nat} {item : σ → Cursor → Except Fault (σ × Cursor)}
    {step : σ → Json → σ → Prop}
    (takes : ∀ state value next cursor after, step state value next →
      readValue steps depth cursor = .ok (value, after) → item state cursor = .ok (next, after))
    {count : Nat} {first : Bool} {before all : List Json} {cursor after : Cursor}
    (collected : foldItems (collectItem steps depth) count first before cursor =
      .ok (all, after)) :
    ∃ items, all = items.reverse ++ before ∧ ∀ {state last}, Run step state items last →
      foldItems item count first state cursor = .ok (last, after) := by
  -- The items are known only where the fold has ended, so the run over them comes last.
  induction count generalizing first before cursor with
  | zero => cases collected
  | succ count induction =>
      rw [foldItems] at collected
      rcases Outcome.bind_eq_ok.mp collected with ⟨⟨more, here⟩, next, collected⟩
      cases more with
      | false =>
          cases collected
          refine ⟨[], rfl, ?_⟩
          intro state last run
          cases run
          rw [foldItems, next]
          rfl
      | true =>
          rcases Outcome.bind_eq_ok.mp collected with ⟨⟨values, behind⟩, taken, rest⟩
          rcases Outcome.map_eq_ok.mp taken with ⟨⟨value, reached⟩, read, equal⟩
          cases equal
          rcases induction rest with ⟨items, rfl, finds⟩
          refine ⟨value :: items, by simp, ?_⟩
          intro state last run
          cases run with
          | cons taken run =>
              rw [foldItems, next]
              simp only [Outcome.ok_bind, if_true, takes _ _ _ _ _ taken read]
              exact finds run

theorem foldMembers_of_run {steps depth : Nat}
    {member : σ → String → Cursor → Except Fault (σ × Cursor)}
    {step : σ → String × Json → σ → Prop}
    (takes : ∀ state key value next cursor atValue after, step state (key, value) next →
      colon cursor = .ok atValue → readValue steps depth atValue = .ok (value, after) →
        member state key cursor = .ok (next, after))
    {count : Nat} {first : Bool} {before all : List (String × Json)} {cursor after : Cursor}
    (collected : foldMembers (collectMember steps depth) steps count first before cursor =
      .ok (all, after)) :
    ∃ members, all = members.reverse ++ before ∧ ∀ {state last}, Run step state members last →
      foldMembers member steps count first state cursor = .ok (last, after) := by
  induction count generalizing first before cursor with
  | zero => cases collected
  | succ count induction =>
      rw [foldMembers] at collected
      rcases Outcome.bind_eq_ok.mp collected with ⟨⟨key?, here⟩, next, collected⟩
      cases key? with
      | none =>
          cases collected
          refine ⟨[], rfl, ?_⟩
          intro state last run
          cases run
          rw [foldMembers, next]
          rfl
      | some key =>
          rcases Outcome.bind_eq_ok.mp collected with ⟨⟨values, behind⟩, taken, rest⟩
          rcases Outcome.bind_eq_ok.mp taken with ⟨atValue, passed, taken⟩
          rcases Outcome.bind_eq_ok.mp taken with ⟨⟨value, reached⟩, read, equal⟩
          cases equal
          rcases induction rest with ⟨members, rfl, finds⟩
          refine ⟨(key, value) :: members, by simp, ?_⟩
          intro state last run
          cases run with
          | cons taken run =>
              rw [foldMembers, next]
              simp only [Outcome.ok_bind, takes _ _ _ _ _ _ _ taken passed read]
              exact finds run

/-! ## Formats -/

/-- The format finds a result in a value, and wherever a text holds the value. -/
structure Format.Finds (format : Format α) (value : Json) (result : α) : Prop where
  ofJson : ∀ surplus, format.ofJson surplus value = .ok result
  read : ∀ allowance cursor after,
    readValue allowance.steps allowance.depth cursor = .ok (value, after) →
      format.read allowance cursor = .ok (result, after)

namespace Format

theorem finds_any (value : Json) : any.Finds value value :=
  ⟨fun _ => rfl, fun _ _ _ => id⟩

theorem finds_text (value : String) : text.Finds (.text value) value where
  ofJson _ := rfl
  read allowance cursor after read := by
    rcases wasRead_of_readValue read with ⟨rest, startsWith, body⟩
    simp only [text, startsWith, body]

theorem finds_flag (value : Bool) : flag.Finds (.boolean value) value where
  ofJson _ := rfl
  read allowance cursor after read := by
    have wasRead := wasRead_of_readValue read
    cases value with
    | true =>
        rcases wasRead with ⟨rest, startsWith, letters⟩
        simp only [flag, startsWith, letters, Outcome.map_ok]
    | false =>
        rcases wasRead with ⟨rest, startsWith, letters⟩
        simp only [flag, startsWith, letters, Outcome.map_ok]

section Combinators

variable {format : Format α} {value : Json} {result : α}

theorem Finds.map (finds : format.Finds value result) (f : α → β) :
    (format.map f).Finds value (f result) where
  ofJson surplus := by simp only [Format.map, finds.ofJson, Outcome.map_ok]
  read allowance cursor after read := by
    simp only [Format.map, finds.read allowance cursor after read, Outcome.map_ok]

theorem Finds.optional (finds : format.Finds value result) (present : value ≠ .null) :
    format.optional.Finds value (some result) where
  ofJson surplus := by
    have found := (finds.map some).ofJson surplus
    cases value <;> first | exact absurd rfl present | exact found
  read allowance cursor after read := by
    have notNull (rest : List Char) : cursor.skipSpaces.rest ≠ 'n' :: rest :=
      fun startsWith => present (eq_null_of_wasRead (wasRead_of_readValue read) startsWith)
    rw [← readValue_skipSpaces] at read
    have found := (finds.map some).read allowance cursor.skipSpaces after read
    simp only [Format.optional]
    exact found

def Prepends (format : Format α) (values : List α) (item : Json) (next : List α) : Prop :=
  ∃ value, format.Finds item value ∧ next = value :: values

theorem run_prepends {toJson : β → Json} {found : β → α} (before : List α) {items : List β}
    (finds : ∀ item ∈ items, format.Finds (toJson item) (found item)) :
    Run format.Prepends before (items.map toJson) ((items.map found).reverse ++ before) := by
  induction items generalizing before with
  | nil => exact .nil
  | cons item items induction =>
      have first := finds item List.mem_cons_self
      have rest := induction (found item :: before) fun other member =>
        finds other (List.mem_cons_of_mem item member)
      rw [List.map_cons, List.map_cons, List.reverse_cons, List.append_assoc]
      exact .cons ⟨found item, first, rfl⟩ rest

theorem finds_list_map {toJson : β → Json} (found : β → α) {items : List β}
    (finds : ∀ item ∈ items, format.Finds (toJson item) (found item)) :
    format.list.Finds (.list (items.map toJson)) (items.map found) where
  ofJson surplus := by
    simp only [Format.list, Json.list, Items.toList_ofList]
    induction items with
    | nil => rfl
    | cons item items induction =>
        have first := (finds item List.mem_cons_self).ofJson surplus
        have others := induction fun other member => finds other (List.mem_cons_of_mem _ member)
        rw [List.map_cons, List.mapM_cons, first, Outcome.ok_bind, others]
        rfl
  read allowance cursor after read := by
    rcases wasRead_of_readValue read with
      ⟨rest, inner, behind, startsWith, deep, collected, closed⟩
    have takes (values : List α) (value : Json) (next : List α) (cursor after : Cursor)
        (prepends : format.Prepends values value next)
        (read : readValue allowance.steps inner cursor = .ok (value, after)) :
        (format.read ⟨inner, allowance.steps⟩ cursor).map
          (fun found => (found.1 :: values, found.2)) = .ok (next, after) := by
      rcases prepends with ⟨found, finds, rfl⟩
      rw [finds.read ⟨inner, allowance.steps⟩ cursor after read, Outcome.map_ok]
    rcases foldItems_of_run takes collected with ⟨items, equal, folds⟩
    rw [Items.toList_ofList, List.append_nil, List.reverse_inj] at equal
    subst equal
    simp only [Format.list, startsWith, inArray, deep, folds (run_prepends [] finds),
      Outcome.map_ok, List.append_nil, List.reverse_reverse, settle, closed]

theorem finds_list {toJson : α → Json} {results : List α}
    (finds : ∀ result ∈ results, format.Finds (toJson result) result) :
    format.list.Finds (.list (results.map toJson)) results := by
  have found := finds_list_map id finds
  rw [List.map_id] at found
  exact found

end Combinators

end Format

/-! ## Records -/

namespace RecordShape

variable {shape : RecordShape σ}

/-- A member is that of a field which the draft has not got, and the field finds a change in
it. -/
def Takes (shape : RecordShape σ) (draft : Draft σ) (member : String × Json) (next : Draft σ) :
    Prop :=
  ∃ field change, shape.field? member.1 = some field ∧ member.1 ∉ draft.seen ∧
    field.update.Finds member.2 change ∧ next = ⟨change draft.value, member.1 :: draft.seen⟩

theorem foldlM_ofMember {surplus : Surplus} {draft last : Draft σ}
    {members : List (String × Json)} (run : Run shape.Takes draft members last) :
    members.foldlM (shape.ofMember surplus) draft = .ok last := by
  induction run with
  | nil => rfl
  | @cons draft next last member members first rest induction =>
      rcases first with ⟨field, change, known, unseen, finds, rfl⟩
      have isNew : draft.seen.contains member.1 = false := by simpa using unseen
      rw [List.foldlM_cons, ofMember]
      simp only [known, isNew, Bool.false_eq_true, if_false, finds.ofJson surplus,
        Outcome.ok_bind, Outcome.pure_eq_ok]
      exact induction

theorem finds_record {members : List (String × Json)} {last : Draft σ}
    (run : Run shape.Takes ⟨shape.blank, []⟩ members last)
    (complete : shape.missing? last.seen = none) :
    shape.format.Finds (.record members) last.value where
  ofJson surplus := by
    simp only [format, ofJson, record, Members.toList_ofList, ofMembers, foldlM_ofMember run,
      Outcome.ok_bind, complete, Outcome.pure_eq_ok]
  read allowance cursor after read := by
    rcases wasRead_of_readValue read with
      ⟨rest, inner, behind, startsWith, deep, collected, closed⟩
    have takes (draft : Draft σ) (key : String) (value : Json) (next : Draft σ)
        (cursor atValue after : Cursor) (taken : shape.Takes draft (key, value) next)
        (passed : colon cursor = .ok atValue)
        (read : readValue allowance.steps inner atValue = .ok (value, after)) :
        shape.readMember ⟨inner, allowance.steps⟩ draft key cursor = .ok (next, after) := by
      rcases taken with ⟨field, change, known, unseen, finds, rfl⟩
      have isNew : draft.seen.contains key = false := by simpa using unseen
      have found := finds.read ⟨inner, allowance.steps⟩ atValue after read
      rw [readMember]
      simp only [known, isNew, Bool.false_eq_true, if_false, passed, found, Outcome.ok_bind,
        Outcome.pure_eq_ok]
    rcases foldMembers_of_run takes collected with ⟨items, equal, folds⟩
    rw [Members.toList_ofList, List.append_nil, List.reverse_inj] at equal
    subst equal
    simp only [format, RecordShape.read, startsWith, inObject, deep, readMembers, folds run,
      Outcome.ok_bind, complete, Outcome.pure_eq_ok, settle, closed, Outcome.map_ok]

/-! ### Members in the order of the fields -/

/-- The members are those of the fields in their order, with no fields left out but such as may
be, and take the record from one value to another. -/
inductive Fills : List (Field σ) → σ → List (String × Json) → σ → Prop where
  | nil {value : σ} : Fills [] value [] value
  | present {field : Field σ} {fields : List (Field σ)} {item : Json} {change : σ → σ}
      {value last : σ} {members : List (String × Json)} (finds : field.update.Finds item change)
      (rest : Fills fields (change value) members last) :
      Fills (field :: fields) value ((field.name, item) :: members) last
  | absent {field : Field σ} {fields : List (Field σ)} {value last : σ}
      {members : List (String × Json)} (optional : field.isRequired = false)
      (rest : Fills fields value members last) : Fills (field :: fields) value members last

namespace Fills

variable {fields : List (Field σ)} {format : Format α} {put : α → σ → σ} {name : String}
  {value last : σ} {members : List (String × Json)} {item : Json} {result : α}

theorem defaulted (finds : format.Finds item result)
    (rest : Fills fields (put result value) members last) :
    Fills (.defaulted name format put :: fields) value ((name, item) :: members) last :=
  .present (finds.map put) rest

theorem required (finds : format.Finds item result)
    (rest : Fills fields (put result value) members last) :
    Fills (.required name format put :: fields) value ((name, item) :: members) last :=
  .present (finds.map put) rest

theorem member? {put : Option α → σ → σ} {result? : Option α} {toJson : α → Json}
    (finds : ∀ result, format.Finds (toJson result) result)
    (isValue : ∀ result, toJson result ≠ .null) (unset : put none value = value)
    (rest : Fills fields (put result? value) members last) :
    Fills (.defaulted name format.optional put :: fields) value
      (Json.member? name (result?.map toJson) ++ members) last := by
  cases result? with
  | none =>
      rw [unset] at rest
      exact .absent rfl rest
  | some result => exact defaulted ((finds result).optional (isValue result)) rest

end Fills

theorem field?_of_mem {fields : List (Field σ)} (distinct : (fields.map Field.name).Nodup)
    {field : Field σ} (member : field ∈ fields) :
    fields.find? (fun other => other.name = field.name) = some field := by
  induction fields with
  | nil => cases member
  | cons first fields induction =>
      rw [List.map_cons, List.nodup_cons] at distinct
      rcases List.mem_cons.mp member with rfl | later
      · rw [List.find?_cons_of_pos (by simp)]
      · have different : first.name ≠ field.name := fun same =>
          distinct.1 (same ▸ List.mem_map_of_mem later)
        rw [List.find?_cons_of_neg (by simpa using different)]
        exact induction distinct.2 later

theorem run_of_fills (distinct : (shape.fields.map Field.name).Nodup) {fields : List (Field σ)}
    {value last : σ} {members : List (String × Json)} (fills : Fills fields value members last)
    (seen : List String) (known : ∀ field ∈ fields, field ∈ shape.fields)
    (remaining : (fields.map Field.name).Nodup) (unseen : ∀ field ∈ fields, field.name ∉ seen) :
    ∃ names, Run shape.Takes ⟨value, seen⟩ members ⟨last, names⟩ ∧ (∀ name ∈ seen, name ∈ names) ∧
      ∀ field ∈ fields, field.isRequired = true → field.name ∈ names := by
  induction fills generalizing seen with
  | nil => exact ⟨seen, .nil, fun _ => id, by simp⟩
  | @present field fields item change value last members finds rest induction =>
      rw [List.map_cons, List.nodup_cons] at remaining
      have isKnown := field?_of_mem distinct (known field List.mem_cons_self)
      have isUnseen := unseen field List.mem_cons_self
      have stillUnseen : ∀ other ∈ fields, other.name ∉ field.name :: seen := by
        intro other member inSeen
        rcases List.mem_cons.mp inSeen with same | inSeen
        · exact remaining.1 (same ▸ List.mem_map_of_mem member)
        · exact unseen other (List.mem_cons_of_mem field member) inSeen
      rcases induction (field.name :: seen)
        (fun other member => known other (List.mem_cons_of_mem field member)) remaining.2
        stillUnseen with ⟨names, run, grown, complete⟩
      refine ⟨names, .cons ⟨field, change, isKnown, isUnseen, finds, rfl⟩ run, ?_, ?_⟩
      · exact fun name member => grown name (List.mem_cons_of_mem _ member)
      · intro other member required
        rcases List.mem_cons.mp member with rfl | member
        · exact grown _ List.mem_cons_self
        · exact complete other member required
  | @absent field fields value last members optional rest induction =>
      rw [List.map_cons, List.nodup_cons] at remaining
      rcases induction seen
        (fun other member => known other (List.mem_cons_of_mem field member)) remaining.2
        (fun other member => unseen other (List.mem_cons_of_mem field member)) with
        ⟨names, run, grown, complete⟩
      refine ⟨names, run, grown, ?_⟩
      intro other member required
      rcases List.mem_cons.mp member with rfl | member
      · rw [optional] at required
        cases required
      · exact complete other member required

theorem finds_of_fills (distinct : (shape.fields.map Field.name).Nodup) {last : σ}
    {members : List (String × Json)} (fills : Fills shape.fields shape.blank members last) :
    shape.format.Finds (.record members) last := by
  rcases run_of_fills distinct fills [] (fun _ => id) distinct
    (fun _ _ => List.not_mem_nil) with ⟨names, run, -, complete⟩
  have noneMissing : shape.missing? names = none := by
    rw [missing?, List.find?_eq_none]
    intro field member
    cases required : field.isRequired with
    | false => simp
    | true => simpa using complete field member required
  exact finds_record run noneMissing

end RecordShape

/-! ## Whole texts -/

namespace Format.Finds

variable {format : Format α} {value : Json} {result : α}

theorem parse_pretty (finds : format.Finds value result) (writable : value.IsWritable 127) :
    format.parse value.pretty = .ok result :=
  readWhole_of_spells (spells_prettyChars 0 value writable.1) writable.2 finds.read

theorem parse_compact (finds : format.Finds value result) (writable : value.IsWritable 127) :
    format.parse value.compact = .ok result :=
  readWhole_of_spells (spells_compactChars value writable.1) writable.2 finds.read

end Format.Finds

end Bulletin.Json
