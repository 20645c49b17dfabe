import Bulletin.Proofs.Json.Steadiness
import Bulletin.Proofs.Json.Yielding
import Mathlib.Data.List.Pairwise
/-!
# Records in any order of members

A member makes the same change to a record wherever it stands among the others, so the format of a
record is steady if those of its fields are and the changes of any two fields can be exchanged.
-/

namespace Bulletin.Json

/-! ## Fields -/

def Format.Makes (format : Format α) (value : α) : Prop :=
  (∃ surplus json, format.ofJson surplus json = .ok value) ∨
    ∃ allowance cursor after, format.read allowance cursor = .ok (value, after)

theorem Format.makes_of_parse {format : Format α} {text : String} {value : α}
    (parsed : format.parse text = .ok value) : format.Makes value := by
  have yields : format.Yields format.Makes :=
    { ofJson := fun surplus json _ found => .inl ⟨surplus, json, found⟩
      read := fun allowance cursor _ after read => .inr ⟨allowance, cursor, after, read⟩ }
  exact yields.parse parsed

theorem Format.Yields.of_makes {format : Format α} {holds : α → Prop} (yields : format.Yields holds)
    {value : α} (makes : format.Makes value) : holds value := by
  rcases makes with ⟨surplus, json, found⟩ | ⟨allowance, cursor, after, read⟩
  · exact yields.ofJson surplus json value found
  · exact yields.read allowance cursor value after read

theorem Format.exists_of_makes_map {format : Format α} {f : α → β} {value : β}
    (makes : (format.map f).Makes value) : ∃ found, f found = value := by
  rcases makes with ⟨surplus, json, found⟩ | ⟨allowance, cursor, after, read⟩
  · rcases Outcome.map_eq_ok.mp found with ⟨inner, -, equal⟩
    exact ⟨inner, equal⟩
  · rcases Outcome.map_eq_ok.mp read with ⟨⟨inner, behind⟩, -, equal⟩
    cases equal
    exact ⟨inner, rfl⟩

def Field.Commutes (field other : Field σ) : Prop :=
  ∀ change next, field.update.Makes change → other.update.Makes next →
    ∀ value, change (next value) = next (change value)

instance : Std.Symm (Field.Commutes (σ := σ)) where
  symm _ _ commutes next change makesNext makesChange value :=
    (commutes change next makesChange makesNext value).symm

theorem Field.commutes_map {name otherName : String} {isRequired otherIsRequired : Bool}
    {format : Format α} {otherFormat : Format β} {put : α → σ → σ} {putOther : β → σ → σ}
    (commute : ∀ result other value,
      put result (putOther other value) = putOther other (put result value)) :
    Commutes ⟨name, isRequired, format.map put⟩
      ⟨otherName, otherIsRequired, otherFormat.map putOther⟩ := by
  intro change next makesChange makesNext value
  rcases Format.exists_of_makes_map makesChange with ⟨result, rfl⟩
  rcases Format.exists_of_makes_map makesNext with ⟨other, rfl⟩
  exact commute result other value

theorem Field.commutes_defaulted {name otherName : String} {format : Format α}
    {otherFormat : Format β} {put : α → σ → σ} {putOther : β → σ → σ}
    (commute : ∀ result other value,
      put result (putOther other value) = putOther other (put result value)) :
    (defaulted name format put).Commutes (defaulted otherName otherFormat putOther) :=
  commutes_map commute

theorem Format.IsSteady.defaulted {format : Format α} (steady : format.IsSteady) {name : String}
    {put : α → σ → σ} : (Field.defaulted name format put).update.IsSteady :=
  steady.map put

theorem Format.IsSteady.required {format : Format α} (steady : format.IsSteady) {name : String}
    {put : α → σ → σ} : (Field.required name format put).update.IsSteady :=
  steady.map put

theorem Format.steady_any_defaulted {name : String} {put : Json → σ → σ}
    (blind : ∀ value other, value.Reorders other → put value = put other) :
    (Field.defaulted name any put).update.IsSteady :=
  steady_any_map blind

namespace RecordShape

/-- The order of members makes no difference to any field, and fields do not get into each other's
way. -/
structure IsSteady (shape : RecordShape σ) : Prop where
  fields : ∀ field ∈ shape.fields, field.update.IsSteady
  commute : shape.fields.Pairwise Field.Commutes

variable {shape : RecordShape σ}

theorem mem_of_field? {key : String} {field : Field σ} (known : shape.field? key = some field) :
    field ∈ shape.fields ∧ field.name = key :=
  ⟨List.mem_of_find?_eq_some known, by simpa using List.find?_some known⟩

theorem IsSteady.commutes (steady : shape.IsSteady) {key otherKey : String}
    (different : key ≠ otherKey) {field other : Field σ} (known : shape.field? key = some field)
    (otherKnown : shape.field? otherKey = some other) : field.Commutes other := by
  rcases mem_of_field? known with ⟨isField, rfl⟩
  rcases mem_of_field? otherKnown with ⟨isOther, rfl⟩
  exact steady.commute.forall isField isOther fun same => different (congrArg Field.name same)

/-! ## What a member does to a draft -/

/-- What a member tells a record: its key, and the change it makes if the key is that of a
field. -/
structure Part (σ : Type) where
  key? : Option String
  change? : Option (σ → σ)

/-- A key that is not known makes no change, and one that came before ends the record. -/
def take? (shape : RecordShape σ) (draft : Draft σ) (part : Part σ) : Option (Draft σ) :=
  part.key?.bind fun key =>
    match shape.field? key with
    | none => some draft
    | some _ =>
        if draft.seen.contains key then none
        else part.change?.map fun change => ⟨change draft.value, key :: draft.seen⟩

def IsMade (shape : RecordShape σ) (part : Part σ) : Prop :=
  ∀ field ∈ part.key?.bind shape.field?, ∀ change ∈ part.change?, field.update.Makes change

def Alike (draft other : Draft σ) : Prop :=
  draft.value = other.value ∧ draft.seen.Perm other.seen

theorem equivalence_alike : Equivalence (Alike (σ := σ)) where
  refl draft := ⟨rfl, .refl draft.seen⟩
  symm alike := ⟨alike.1.symm, alike.2.symm⟩
  trans first second := ⟨first.1.trans second.1, first.2.trans second.2⟩

theorem take?_unreadable (shape : RecordShape σ) (change? : Option (σ → σ)) (draft : Draft σ) :
    shape.take? draft ⟨none, change?⟩ = none := rfl

theorem take?_unknown {key : String} (unknown : shape.field? key = none)
    (change? : Option (σ → σ)) (draft : Draft σ) :
    shape.take? draft ⟨some key, change?⟩ = some draft := by
  simp only [take?, Option.bind_some, unknown]

theorem take?_known {key : String} {field : Field σ} (known : shape.field? key = some field)
    (change? : Option (σ → σ)) (draft : Draft σ) :
    shape.take? draft ⟨some key, change?⟩ =
      if key ∈ draft.seen then none
      else change?.map fun change => ⟨change draft.value, key :: draft.seen⟩ := by
  simp only [take?, Option.bind_some, known, List.contains_iff_mem]

theorem take?_alike {draft other : Draft σ} (alike : Alike draft other) (part : Part σ) :
    Option.Rel Alike (shape.take? draft part) (shape.take? other part) := by
  rcases part with ⟨key?, change?⟩
  cases key? with
  | none => exact .none
  | some key =>
      cases known : shape.field? key with
      | none =>
          rw [take?_unknown known, take?_unknown known]
          exact .some alike
      | some field =>
          rw [take?_known known, take?_known known]
          simp only [alike.2.mem_iff]
          split
          · exact .none
          · cases change? with
            | none => exact .none
            | some change => exact .some ⟨congrArg change alike.1, alike.2.cons key⟩

theorem take?_take? {key : String} {field : Field σ} (known : shape.field? key = some field)
    (change? next? : Option (σ → σ)) (draft : Draft σ) :
    (shape.take? draft ⟨some key, change?⟩ >>= (shape.take? · ⟨some key, next?⟩)) = none := by
  simp only [take?_known known]
  by_cases seen : key ∈ draft.seen
  · rw [if_pos seen]
    rfl
  · rw [if_neg seen]
    cases change? with
    | none => rfl
    | some change => exact if_pos List.mem_cons_self

theorem take?_exchange_known {key nextKey : String} {field nextField : Field σ}
    (different : key ≠ nextKey) (known : shape.field? key = some field)
    (nextKnown : shape.field? nextKey = some nextField) {change? next? : Option (σ → σ)}
    (commute : ∀ change ∈ change?, ∀ next ∈ next?, ∀ value,
      change (next value) = next (change value)) (draft : Draft σ) :
    Option.Rel Alike
      (shape.take? draft ⟨some key, change?⟩ >>= (shape.take? · ⟨some nextKey, next?⟩))
      (shape.take? draft ⟨some nextKey, next?⟩ >>= (shape.take? · ⟨some key, change?⟩)) := by
  have swapped := different.symm
  simp only [take?_known known, take?_known nextKnown]
  by_cases seen : key ∈ draft.seen
  · cases next? <;> by_cases nextSeen : nextKey ∈ draft.seen <;> simp [seen, nextSeen]
  by_cases nextSeen : nextKey ∈ draft.seen
  · cases change? <;> simp [seen, nextSeen]
  cases change? with
  | none => cases next? <;> simp [seen, nextSeen]
  | some change =>
      cases next? with
      | none => simp [seen, nextSeen]
      | some next =>
          have stillUnseen : key ∉ nextKey :: draft.seen := by simp [different, seen]
          have nextUnseen : nextKey ∉ key :: draft.seen := by simp [swapped, nextSeen]
          simp only [if_neg seen, if_neg nextSeen, Option.map_some, Option.bind_eq_bind,
            Option.bind_some, if_neg stillUnseen, if_neg nextUnseen]
          exact .some ⟨(commute change rfl next rfl draft.value).symm, .swap key nextKey _⟩

theorem IsSteady.take?_exchange (steady : shape.IsSteady) {part next : Part σ}
    (made : shape.IsMade part) (madeNext : shape.IsMade next) (draft : Draft σ) :
    Option.Rel Alike (shape.take? draft part >>= (shape.take? · next))
      (shape.take? draft next >>= (shape.take? · part)) := by
  rcases part with ⟨key?, change?⟩
  rcases next with ⟨nextKey?, next?⟩
  cases key? with
  | none =>
      simp only [take?_unreadable, Option.bind_eq_bind, Option.bind_fun_none]
      exact .none
  | some key =>
  cases nextKey? with
  | none =>
      simp only [take?_unreadable, Option.bind_eq_bind, Option.bind_fun_none]
      exact .none
  | some nextKey =>
  cases known : shape.field? key with
  | none =>
      simp only [take?_unknown known, Option.bind_eq_bind, Option.bind_some, Option.bind_fun_some]
      exact take?_alike (equivalence_alike.refl draft) ⟨some nextKey, next?⟩
  | some field =>
  cases nextKnown : shape.field? nextKey with
  | none =>
      simp only [take?_unknown nextKnown, Option.bind_eq_bind, Option.bind_some,
        Option.bind_fun_some]
      exact take?_alike (equivalence_alike.refl draft) ⟨some key, change?⟩
  | some nextField =>
      by_cases same : key = nextKey
      · subst same
        rw [take?_take? known, take?_take? known]
        exact .none
      · refine take?_exchange_known same known nextKnown ?_ draft
        intro change isChange next isNext
        exact steady.commutes same known nextKnown change next
          (made field known change isChange) (madeNext nextField nextKnown next isNext)

/-! ## Objects -/

def finish? (shape : RecordShape σ) (draft : Draft σ) : Option σ :=
  match shape.missing? draft.seen with
  | some _ => none
  | none => some draft.value

theorem finish?_alike {draft other : Draft σ} (alike : Alike draft other) :
    shape.finish? draft = shape.finish? other := by
  have missing : shape.missing? draft.seen = shape.missing? other.seen := by
    simp only [missing?, List.contains_eq_mem, alike.2.mem_iff]
  rw [finish?, finish?, missing, alike.1]

theorem IsSteady.foldlM_take? (steady : shape.IsSteady) {told others : List (Part σ)}
    (order : told.Perm others) (made : ∀ part ∈ told, shape.IsMade part) :
    (told.foldlM shape.take? ⟨shape.blank, []⟩).bind shape.finish? =
      (others.foldlM shape.take? ⟨shape.blank, []⟩).bind shape.finish? := by
  have exchange := fun part isPart next isNext =>
    steady.take?_exchange (made part isPart) (made next isNext)
  have folded := foldlM_perm equivalence_alike (fun _ _ part alike => take?_alike alike part)
    order exchange (equivalence_alike.refl ⟨shape.blank, []⟩)
  exact bind_eq_of_rel folded fun _ _ => finish?_alike

/-! ### In a value -/

def partOf (shape : RecordShape σ) (surplus : Surplus) (member : String × Json) : Part σ :=
  ⟨some member.1, (shape.field? member.1).bind fun field =>
    (field.update.ofJson surplus member.2).toOption⟩

theorem isMade_partOf (surplus : Surplus) (member : String × Json) :
    shape.IsMade (shape.partOf surplus member) := by
  intro field known change isChange
  rw [partOf, Option.bind_some] at known
  rw [partOf, known, Option.bind_some] at isChange
  exact .inl ⟨surplus, member.2, Outcome.toOption_eq_some.mp isChange⟩

theorem toOption_ofMember (surplus : Surplus) (draft : Draft σ) (member : String × Json) :
    (shape.ofMember surplus draft member).toOption =
      shape.take? draft (shape.partOf surplus member) := by
  rw [ofMember, partOf]
  cases known : shape.field? member.1 with
  | none =>
      rw [take?_unknown known]
      rfl
  | some field =>
      rw [take?_known known, List.contains_eq_mem]
      by_cases seen : member.1 ∈ draft.seen
      · simp only [seen, decide_true, if_true]
        rfl
      · simp only [seen, decide_false, Bool.false_eq_true, if_false, Outcome.toOption_bind,
          Option.bind_some]
        cases (field.update.ofJson surplus member.2).toOption <;> rfl

theorem toOption_ofMembers (surplus : Surplus) (members : List (String × Json)) :
    (shape.ofMembers surplus members).toOption =
      ((members.map (shape.partOf surplus)).foldlM shape.take? ⟨shape.blank, []⟩).bind
        shape.finish? := by
  rw [ofMembers, Outcome.toOption_bind, Outcome.toOption_foldlM, List.foldlM_map]
  simp only [toOption_ofMember]
  congr 1
  funext draft
  rw [finish?]
  cases shape.missing? draft.seen <;> rfl

theorem IsSteady.partOf_alike (steady : shape.IsSteady) (surplus : Surplus)
    {member other : String × Json} (reorders : ReordersMember member other) :
    shape.partOf surplus member = shape.partOf surplus other := by
  cases reorders with
  | @value key value other inValue =>
      rw [partOf, partOf]
      cases known : shape.field? key with
      | none => rfl
      | some field =>
          have isSteady := steady.fields field (mem_of_field? known).1
          simp only [Option.bind_some, isSteady.ofJson surplus inValue]

theorem IsSteady.ofMembers (steady : shape.IsSteady) (surplus : Surplus)
    {members others : List (String × Json)} (reorders : ReordersMembers members others) :
    (shape.ofMembers surplus members).toOption = (shape.ofMembers surplus others).toOption := by
  rcases reorders with ⟨inPlace, inMembers, order⟩
  have parts : members.map (shape.partOf surplus) = inPlace.map (shape.partOf surplus) := by
    rw [← List.forall₂_eq_eq_eq, List.forall₂_map_left_iff, List.forall₂_map_right_iff]
    exact inMembers.imp fun _ _ => steady.partOf_alike surplus
  rw [toOption_ofMembers, toOption_ofMembers, parts]
  refine steady.foldlM_take? (order.map _) ?_
  exact List.forall_mem_map.mpr fun member _ => isMade_partOf surplus member

/-! ### In a text -/

theorem takesMember_part {depth : Nat} {member : List TextPart × Outline} {part : Part σ}
    (isKey : part.key? = textValue? member.1)
    (tells : ∀ field ∈ (textValue? member.1).bind shape.field?,
      member.2.Tells field.update.read depth part.change?) :
    TakesMember shape.readMember depth shape.take? member part where
  noKey noKey draft := by
    rw [take?, isKey, noKey]
    rfl
  key key isText draft := by
    rcases part with ⟨key?, change?⟩
    rw [isText] at isKey
    cases isKey
    intro before behind chars isBefore isBehind spells steps enough rest boundary offset
    cases known : shape.field? key with
    | none =>
        rcases skipValue_spells isBehind spells enough boundary (offset + before.length + 1) with
          ⟨reached, skips⟩
        rw [take?_unknown known]
        refine ⟨reached, ?_⟩
        simp only [readMember, known, colon_gap isBefore, Outcome.ok_bind, skips,
          Outcome.pure_eq_ok]
    | some field =>
        rw [take?_known known]
        by_cases seen : key ∈ draft.seen
        · rw [if_pos seen]
          simp only [readMember, known, List.contains_eq_mem, seen, decide_true, if_true]
          exact ⟨_, rfl⟩
        · rw [if_neg seen]
          simp only [readMember, known, List.contains_eq_mem, seen, decide_false,
            Bool.false_eq_true, if_false]
          let next (change : σ → σ) : Draft σ := ⟨change draft.value, key :: draft.seen⟩
          have isField : field ∈ (textValue? member.1).bind shape.field? := by
            rw [isText]
            exact known
          exact Outline.Tells.member (tells field isField) next isBefore isBehind spells enough
            boundary offset

theorem IsSteady.exists_change (steady : shape.IsSteady) (key : List TextPart)
    {value other : Outline} (inValue : value.Reorders other) (spellable : value.IsSpellable)
    (depth : Nat) :
    ∃ change?, ∀ field ∈ (textValue? key).bind shape.field?,
      value.Tells field.update.read depth change? ∧
        other.Tells field.update.read depth change? := by
  cases known : (textValue? key).bind shape.field? with
  | none => exact ⟨none, nofun⟩
  | some field =>
      rcases Option.bind_eq_some_iff.mp known with ⟨name, -, isKnown⟩
      rcases (steady.fields field (mem_of_field? isKnown).1).read inValue spellable depth with
        ⟨change?, tells⟩
      refine ⟨change?, fun only isOnly => ?_⟩
      cases isOnly
      exact tells

theorem isMade_of_tells {depth : Nat} {member : List TextPart × Outline}
    {change? : Option (σ → σ)} (spellable : member.2.IsSpellable)
    (tells : ∀ field ∈ (textValue? member.1).bind shape.field?,
      member.2.Tells field.update.read depth change?) :
    shape.IsMade ⟨textValue? member.1, change?⟩ := by
  intro field isField change isChange
  cases isChange
  exact .inr (Outline.Tells.exists_read (tells field isField) spellable)

theorem IsSteady.exists_part (steady : shape.IsSteady) {member other : List TextPart × Outline}
    (reorders : Outline.ReordersMember member other) (spellable : member.2.IsSpellable)
    (depth : Nat) :
    ∃ part, TakesMember shape.readMember depth shape.take? member part ∧
      TakesMember shape.readMember depth shape.take? other part ∧ shape.IsMade part := by
  cases reorders with
  | @value key value other inValue =>
      rcases steady.exists_change key inValue spellable depth with ⟨change?, tells⟩
      exact ⟨⟨textValue? key, change?⟩,
        takesMember_part rfl fun field isField => (tells field isField).1,
        takesMember_part rfl fun field isField => (tells field isField).2,
        isMade_of_tells spellable fun field isField => (tells field isField).1⟩

def finish (shape : RecordShape σ) (read : Draft σ × Cursor) : Except Fault (σ × Cursor) :=
  match shape.missing? read.1.seen with
  | some field => .error (.pending (.missingField field.name) read.2)
  | none => .ok (read.1.value, read.2)

theorem gives_finish (shape : RecordShape σ) (draft : Draft σ) (rest : List Char)
    (offset : Nat) : Gives (shape.finish (draft, ⟨rest, offset⟩)) (shape.finish? draft) rest := by
  rw [finish, finish?]
  cases shape.missing? draft.seen with
  | none => exact ⟨offset, rfl⟩
  | some field => exact ⟨_, rfl⟩

theorem IsSteady.exists_tellsMembers (steady : shape.IsSteady)
    {members inPlace others : List (List TextPart × Outline)}
    (inMembers : List.Forall₂ Outline.ReordersMember members inPlace)
    (order : inPlace.Perm others) (spellable : ∀ member ∈ members, member.2.IsSpellable)
    (depth : Nat) :
    ∃ value?, TellsMembers shape.readMembers depth members value? ∧
      TellsMembers shape.readMembers depth others value? := by
  have inMember (member : List TextPart × Outline) (isMember : member ∈ members)
      (other : List TextPart × Outline) (reorders : Outline.ReordersMember member other) :
      ∃ part next, TakesMember shape.readMember depth shape.take? member part ∧
        TakesMember shape.readMember depth shape.take? other next ∧
          (shape.IsMade part ∧ part = next) := by
    rcases steady.exists_part reorders (spellable member isMember) depth with
      ⟨part, takes, takesOther, made⟩
    exact ⟨part, part, takes, takesOther, made, rfl⟩
  rcases exists_lists_perm inMembers order inMember with
    ⟨told, _, after, takes, takesOthers, alike, moved⟩
  rcases (List.forall₂_and_left _ _).mp alike with ⟨made, equal⟩
  rw [List.forall₂_eq_eq_eq] at equal
  rcases equal with rfl
  have sameEnd := steady.foldlM_take? moved made
  refine ⟨_, tellsMembers_fold takes ⟨shape.blank, []⟩ shape.gives_finish, ?_⟩
  rw [sameEnd]
  exact tellsMembers_fold takesOthers ⟨shape.blank, []⟩ shape.gives_finish

/-! ## Arrays -/

theorem IsSteady.ofItems (steady : shape.IsSteady) (surplus : Surplus) {fields : List (Field σ)}
    (known : ∀ field ∈ fields, field ∈ shape.fields) {items others : List Json}
    (inItems : List.Forall₂ Reorders items others) (index : Nat) (value : σ) :
    (shape.ofItems surplus fields index items value).toOption =
      (shape.ofItems surplus fields index others value).toOption := by
  induction fields generalizing items others index value with
  | nil => cases inItems <;> rfl
  | cons field fields induction =>
      rcases List.forall_mem_cons.mp known with ⟨isField, inFields⟩
      cases inItems with
      | nil => rfl
      | cons first rest =>
          rw [RecordShape.ofItems, RecordShape.ofItems, Outcome.toOption_bind,
            Outcome.toOption_bind, (steady.fields field isField).ofJson surplus first]
          exact congrArg _ (funext fun change => induction inFields rest _ _)

theorem closeArray_lead {first : Bool} {lead : List Char} (isLead : IsLead first lead) {c : Char}
    (isStart : IsStart c) (rest : List Char) (offset : Nat) :
    ∃ fault, closeArray ⟨lead ++ c :: rest, offset⟩ = .error fault := by
  rcases isStart with ⟨notBlank, notClosing, notComma⟩
  rcases isLead with ⟨before, after, isBefore, isAfter, rfl⟩
  cases first with
  | true =>
      rw [if_pos rfl, List.append_nil, List.append_assoc, closeArray, skipSpaces_append isBefore,
        skipSpaces_gap isAfter notBlank]
      simp only
      split
      all_goals simp_all
  | false =>
      rw [if_neg Bool.false_ne_true, List.append_assoc, List.append_assoc,
        List.singleton_append, closeArray, skipSpaces_gap isBefore rfl]
      simp only [Cursor.next, skipSpaces_gap isAfter notBlank]
      split
      all_goals simp_all

theorem tellsItems_end (shape : RecordShape σ) (depth index : Nat) (first : Bool) (value : σ) :
    TellsItems (fun allowance => shape.readItems allowance [] index first value) depth first []
      (some value) := by
  intro chars spells steps _ rest offset
  rw [Outline.SpellsItems] at spells
  rcases spells with ⟨gap, isGap, rfl⟩
  refine ⟨offset + gap.length + 1, ?_⟩
  simp only [readItems, List.append_assoc, List.singleton_append, settle, closeArray,
    skipSpaces_gap isGap (c := ']') rfl]
  rfl

/-- More items than fields are none too many only where there are none. -/
theorem tellsItems_surplus (shape : RecordShape σ) (depth index : Nat) (first : Bool) (value : σ)
    (head : Outline) (tail : List Outline) :
    TellsItems (fun allowance => shape.readItems allowance [] index first value) depth first
      (head :: tail) none := by
  intro chars spells steps _ rest offset
  rw [Outline.SpellsItems] at spells
  rcases spells with ⟨lead, item, others, isLead, spellsHead, -, rfl⟩
  rcases spellsHead.start with ⟨c, more, rfl, isStart⟩
  rcases closeArray_lead isLead isStart (more ++ (others ++ rest)) offset with ⟨fault, closes⟩
  refine ⟨fault, ?_⟩
  simp only [readItems, List.append_assoc, List.cons_append, settle, closes]
  rfl

theorem tellsItems_absent {field : Field σ} {fields : List (Field σ)} {depth index : Nat}
    {first : Bool} {value : σ} {value? : Option σ}
    (tells : TellsItems (fun allowance => shape.readItems allowance fields (index + 1) first value)
      depth first [] value?) :
    TellsItems (fun allowance => shape.readItems allowance (field :: fields) index first value)
      depth first [] (if field.isRequired then none else value?) := by
  intro chars spells steps enough rest offset
  rw [Outline.SpellsItems] at spells
  rcases spells with ⟨gap, isGap, rfl⟩
  have closing : Outline.SpellsItems first [] [']'] := by
    rw [Outline.SpellsItems]
    exact ⟨[], isGap_nil, rfl⟩
  rw [List.length_append, List.length_singleton] at enough
  have shorter : [']'].length < steps := by
    rw [List.length_singleton]
    omega
  have others := tells closing shorter rest (offset + gap.length)
  simp only [readItems, List.append_assoc, List.singleton_append, nextItem_closing isGap,
    Outcome.ok_bind, Bool.false_eq_true, if_false]
  cases field.isRequired with
  | true => exact ⟨_, rfl⟩
  | false => exact others

theorem tellsItems_field {field : Field σ} {fields : List (Field σ)} {depth index : Nat}
    {first : Bool} {value : σ} {head : Outline} {tail : List Outline} {change? : Option (σ → σ)}
    (tells : head.Tells field.update.read depth change?) {next? : (σ → σ) → Option σ}
    (goesOn : ∀ change ∈ change?,
      TellsItems
        (fun allowance => shape.readItems allowance fields (index + 1) false (change value))
        depth false tail (next? change)) :
    TellsItems (fun allowance => shape.readItems allowance (field :: fields) index first value)
      depth first (head :: tail) (change?.bind next?) := by
  intro chars spells steps enough rest offset
  rw [Outline.SpellsItems] at spells
  rcases spells with ⟨lead, item, others, isLead, spellsHead, spellsTail, rfl⟩
  rcases spellsHead.start with ⟨c, more, startsWith, isStart⟩
  simp only [List.length_append] at enough
  rcases nextItem_lead isLead isStart (more ++ (others ++ rest)) offset with ⟨atItem, next⟩
  rw [← List.cons_append, ← startsWith] at next
  have shorter : ([] ++ item).length < steps := by
    rw [List.nil_append]
    omega
  have given := tells isGap_nil spellsHead shorter (spellsTail.isBoundary rest) atItem
  rw [List.nil_append] at given
  simp only [readItems, List.append_assoc, next, Outcome.ok_bind, if_true]
  cases change? with
  | none =>
      rcases given with ⟨fault, equal⟩
      rw [equal]
      cases fault
      all_goals exact ⟨_, rfl⟩
  | some change =>
      rcases given with ⟨behind, equal⟩
      rw [equal]
      have fewer : others.length < steps := by omega
      exact goesOn change rfl spellsTail fewer rest behind

theorem IsSteady.exists_tellsItems (steady : shape.IsSteady) {fields : List (Field σ)}
    (known : ∀ field ∈ fields, field ∈ shape.fields) {items others : List Outline}
    (inItems : List.Forall₂ Outline.Reorders items others)
    (spellable : ∀ item ∈ items, item.IsSpellable) (depth index : Nat) (first : Bool) (value : σ) :
    ∃ value?,
      TellsItems (fun allowance => shape.readItems allowance fields index first value) depth first
        items value? ∧
      TellsItems (fun allowance => shape.readItems allowance fields index first value) depth first
        others value? := by
  induction fields generalizing items others index first value with
  | nil =>
      cases inItems with
      | nil =>
          exact ⟨_, shape.tellsItems_end depth index first value,
            shape.tellsItems_end depth index first value⟩
      | cons head tail =>
          exact ⟨none, shape.tellsItems_surplus depth index first value _ _,
            shape.tellsItems_surplus depth index first value _ _⟩
  | cons field fields induction =>
      rcases List.forall_mem_cons.mp known with ⟨isField, inFields⟩
      cases inItems with
      | nil =>
          rcases induction inFields .nil spellable (index + 1) first value with
            ⟨value?, tells, tellsOther⟩
          exact ⟨_, tellsItems_absent tells, tellsItems_absent tellsOther⟩
      | cons head tail =>
          rcases List.forall_mem_cons.mp spellable with ⟨inHead, inTail⟩
          rcases (steady.fields field isField).read head inHead depth with
            ⟨change?, tells, tellsOther⟩
          -- What comes behind the item depends on the change, if the item makes one at all.
          have goesOn (change : σ → σ) :=
            induction inFields tail inTail (index + 1) false (change value)
          choose next? tellsTail tellsOthers using goesOn
          exact ⟨_, tellsItems_field tells fun change _ => tellsTail change,
            tellsItems_field tellsOther fun change _ => tellsOthers change⟩

/-! ## Records as objects or arrays -/

theorem opensArray_read (shape : RecordShape σ) :
    OpensArray shape.read fun allowance cursor =>
      shape.readItems allowance shape.fields 0 true shape.blank cursor := by
  intro gap isGap allowance rest offset
  simp only [RecordShape.read, skipSpaces_gap isGap (c := '[') rfl]

theorem opensObject_read (shape : RecordShape σ) : OpensObject shape.read shape.readMembers := by
  intro gap isGap allowance rest offset
  simp only [RecordShape.read, skipSpaces_gap isGap (c := '\x7b') rfl]

theorem tells_read_none (shape : RecordShape σ) {outline : Outline}
    (notArray : ∀ items, outline ≠ .array items) (notObject : ∀ members, outline ≠ .object members)
    (depth : Nat) : outline.Tells shape.read depth none := by
  intro gap chars isGap spells steps _ rest _ offset
  rcases spells.startsWith with ⟨c, more, rfl, startsWith⟩
  simp only [RecordShape.read, List.append_assoc, List.cons_append,
    skipSpaces_gap isGap startsWith.isStart.1]
  split
  · rename_i heads
    cases heads
    cases startsWith with
    | array items => exact absurd rfl (notArray items)
    | digit numeral isDigit => exact absurd isDigit (by decide)
  · rename_i heads
    cases heads
    cases startsWith with
    | object members => exact absurd rfl (notObject members)
    | digit numeral isDigit => exact absurd isDigit (by decide)
  · exact ⟨_, rfl⟩

/-- A record whose fields disregard the order of members does so as well. -/
theorem IsSteady.format (steady : shape.IsSteady) : shape.format.IsSteady where
  ofJson surplus value other reorders := by
    cases reorders with
    | array inItems =>
        simp only [RecordShape.format, RecordShape.ofJson, Items.toList_ofList]
        exact steady.ofItems surplus (fun _ => id) inItems 0 shape.blank
    | object inMembers order =>
        simp only [RecordShape.format, RecordShape.ofJson, Members.toList_ofList]
        exact steady.ofMembers surplus ⟨_, inMembers, order⟩
    | _ => rfl
  read reorders spellable depth := by
    cases reorders with
    | array inItems =>
        cases depth with
        | zero =>
            exact ⟨none, tells_array_zero shape.opensArray_read,
              tells_array_zero shape.opensArray_read⟩
        | succ depth =>
            rcases steady.exists_tellsItems (fun _ => id) inItems spellable.items depth 0 true
              shape.blank with ⟨value?, tells, tellsOther⟩
            exact ⟨value?, tells_array_succ shape.opensArray_read tells,
              tells_array_succ shape.opensArray_read tellsOther⟩
    | object inMembers order =>
        cases depth with
        | zero =>
            exact ⟨none, tells_object_zero shape.opensObject_read,
              tells_object_zero shape.opensObject_read⟩
        | succ depth =>
            rcases steady.exists_tellsMembers inMembers order spellable.members depth with
              ⟨value?, tells, tellsOther⟩
            exact ⟨value?, tells_object_succ shape.opensObject_read tells,
              tells_object_succ shape.opensObject_read tellsOther⟩
    | _ =>
        exact ⟨none, shape.tells_read_none (by simp) (by simp) depth,
          shape.tells_read_none (by simp) (by simp) depth⟩

end RecordShape

end Bulletin.Json
