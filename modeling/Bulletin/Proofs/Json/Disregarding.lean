import Bulletin.Proofs.Json.Altering
import Bulletin.Proofs.Json.RecordOrder
import Mathlib.Data.List.Find
/-!
# Records that disregard a member

Where a member takes any value, tells nothing of a record that matters and may be left out, it makes
no difference that matters whether the member is there and what it says.
-/

namespace Bulletin.Json

def Field.Respects (field : Field σ) (same : σ → σ → Prop) : Prop :=
  ∀ change, field.update.Makes change → ∀ value other, same value other →
    same (change value) (change other)

theorem Field.respects_map {same : σ → σ → Prop} {name : String} {isRequired : Bool}
    {format : Format α} {put : α → σ → σ}
    (puts : ∀ result value other, same value other → same (put result value) (put result other)) :
    Respects ⟨name, isRequired, format.map put⟩ same := by
  intro change makes
  rcases Format.exists_of_makes_map makes with ⟨result, rfl⟩
  exact puts result

namespace RecordShape

variable {shape : RecordShape σ} {key : String} {same : σ → σ → Prop}

/-- A field with the key takes any value, is not required and makes no difference that matters; the
others make the same one to what is the same. -/
structure Disregards (shape : RecordShape σ) (key : String) (same : σ → σ → Prop) : Prop where
  equivalence : Equivalence same
  optional : ∀ field ∈ shape.fields, field.name = key → field.isRequired = false
  own : ∀ field ∈ shape.fields, field.name = key → ∃ put : Json → σ → σ,
    field.update = Format.any.map put ∧ ∀ json value, same value (put json value)
  others : ∀ field ∈ shape.fields, field.name ≠ key → field.Respects same

/-! ## Drafts -/

theorem take?_eq_some {draft next : Draft σ} {part : Part σ} :
    shape.take? draft part = some next ↔
      ∃ name, part.key? = some name ∧
        ((shape.field? name = none ∧ next = draft) ∨
          ∃ field change, shape.field? name = some field ∧ name ∉ draft.seen ∧
            part.change? = some change ∧ next = ⟨change draft.value, name :: draft.seen⟩) := by
  rcases part with ⟨key?, change?⟩
  cases key? with
  | none => simp [take?_unreadable]
  | some name =>
      cases known : shape.field? name with
      | none => simp [take?_unknown known, known, eq_comm]
      | some field =>
          rw [take?_known known]
          by_cases seen : name ∈ draft.seen <;> simp [seen, known, eq_comm]

/-- The drafts have the same value but for what is disregarded, and got the same other fields. -/
def SameBut (key : String) (same : σ → σ → Prop) (draft other : Draft σ) : Prop :=
  same draft.value other.value ∧ ∀ name, name ≠ key → (name ∈ draft.seen ↔ name ∈ other.seen)

def partsBut (key : String) (parts : List (Part σ)) : List (Part σ) :=
  parts.filter fun part => part.key? ≠ some key

namespace Disregards

variable {draft other next : Draft σ} {part : Part σ} {parts : List (Part σ)}

theorem sameBut_symm (disregards : shape.Disregards key same)
    (alike : SameBut key same draft other) : SameBut key same other draft :=
  ⟨disregards.equivalence.symm alike.1, fun name notKey => (alike.2 name notKey).symm⟩

theorem sameBut_trans (disregards : shape.Disregards key same)
    (first : SameBut key same draft other) (second : SameBut key same other next) :
    SameBut key same draft next :=
  ⟨disregards.equivalence.trans first.1 second.1, fun name notKey =>
    (first.2 name notKey).trans (second.2 name notKey)⟩

theorem seen_of_take? (notKey : part.key? ≠ some key) (taken : shape.take? draft part = some next)
    (seen : key ∈ next.seen) : key ∈ draft.seen := by
  rcases take?_eq_some.mp taken with ⟨name, isName, ⟨-, rfl⟩ | ⟨field, change, -, -, -, rfl⟩⟩
  · exact seen
  · have different : key ≠ name := fun isKey => notKey (isKey ▸ isName)
    simpa [different] using seen

theorem take?_key (disregards : shape.Disregards key same) (isKey : part.key? = some key)
    (made : shape.IsMade part) (taken : shape.take? draft part = some next) :
    SameBut key same next draft := by
  rcases take?_eq_some.mp taken with ⟨name, isName, unknown | known⟩
  · rcases unknown with ⟨-, rfl⟩
    exact ⟨disregards.equivalence.refl _, fun _ _ => Iff.rfl⟩
  · rcases known with ⟨field, change, isField, -, isChange, rfl⟩
    rw [isKey] at isName
    cases isName
    have makes : field.update.Makes change :=
      made field (by rw [isKey]; exact isField) change isChange
    rcases mem_of_field? isField with ⟨member, isKey⟩
    rcases disregards.own field member isKey with ⟨put, update, unchanged⟩
    rw [update] at makes
    rcases Format.exists_of_makes_map makes with ⟨json, rfl⟩
    refine ⟨disregards.equivalence.symm (unchanged json draft.value), fun name notKey => ?_⟩
    simp [notKey]

theorem take?_other (disregards : shape.Disregards key same) (notKey : part.key? ≠ some key)
    (made : shape.IsMade part) (alike : SameBut key same draft other)
    (taken : shape.take? draft part = some next) :
    ∃ after, shape.take? other part = some after ∧ SameBut key same next after := by
  rcases take?_eq_some.mp taken with ⟨name, isName, unknown | known⟩
  · rcases unknown with ⟨unknown, rfl⟩
    exact ⟨other, take?_eq_some.mpr ⟨name, isName, .inl ⟨unknown, rfl⟩⟩, alike⟩
  · rcases known with ⟨field, change, isField, unseen, isChange, rfl⟩
    have different : name ≠ key := fun isKey => notKey (isKey ▸ isName)
    have makes : field.update.Makes change :=
      made field (by rw [isName]; exact isField) change isChange
    rcases mem_of_field? isField with ⟨member, rfl⟩
    have changed := disregards.others field member different change makes _ _ alike.1
    have stillUnseen : field.name ∉ other.seen := mt (alike.2 _ different).mpr unseen
    refine ⟨_, take?_eq_some.mpr ⟨_, isName, .inr ⟨field, change, isField, stillUnseen, isChange,
      rfl⟩⟩, changed, fun name notKey => ?_⟩
    simp [alike.2 name notKey]

/-- What is taken with the members of the key is taken without them. -/
theorem foldlM_partsBut (disregards : shape.Disregards key same)
    (made : ∀ part ∈ parts, shape.IsMade part) (alike : SameBut key same draft other)
    (folds : parts.foldlM shape.take? draft = some next) :
    ∃ after, (partsBut key parts).foldlM shape.take? other = some after ∧
      SameBut key same next after := by
  induction parts generalizing draft other with
  | nil =>
      cases folds
      exact ⟨other, rfl, alike⟩
  | cons part parts induction =>
      rcases List.forall_mem_cons.mp made with ⟨madePart, madeParts⟩
      rw [List.foldlM_cons, Option.bind_eq_bind, Option.bind_eq_some_iff] at folds
      rcases folds with ⟨first, taken, folds⟩
      by_cases isKey : part.key? = some key
      case pos =>
        have unchanged := disregards.take?_key isKey madePart taken
        rw [partsBut, List.filter_cons_of_neg (by simp [isKey])]
        exact induction madeParts (disregards.sameBut_trans unchanged alike) folds
      case neg =>
        rcases disregards.take?_other isKey madePart alike taken with ⟨after, takenToo, alike⟩
        rcases induction madeParts alike folds with ⟨last, foldsToo, alike⟩
        rw [partsBut, List.filter_cons_of_pos (by simp [isKey]), List.foldlM_cons, takenToo]
        exact ⟨last, foldsToo, alike⟩

theorem foldlM_of_partsBut (disregards : shape.Disregards key same)
    (made : ∀ part ∈ parts, shape.IsMade part)
    (readable : ∀ part ∈ parts, part.key? = some key → ∀ field ∈ shape.field? key,
      ∃ change, part.change? = some change)
    (once : parts.Pairwise fun part later => part.key? = some key → later.key? ≠ some key)
    (unseen : key ∈ other.seen → ∀ part ∈ parts, part.key? ≠ some key)
    (alike : SameBut key same draft other)
    (folds : (partsBut key parts).foldlM shape.take? draft = some next) :
    ∃ after, parts.foldlM shape.take? other = some after ∧ SameBut key same next after := by
  induction parts generalizing draft other with
  | nil =>
      cases folds
      exact ⟨other, rfl, alike⟩
  | cons part parts induction =>
      rcases List.forall_mem_cons.mp made with ⟨madePart, madeParts⟩
      rcases List.forall_mem_cons.mp readable with ⟨readablePart, readableParts⟩
      rcases List.pairwise_cons.mp once with ⟨noLater, once⟩
      by_cases isKey : part.key? = some key
      case pos =>
        have notSeen : key ∉ other.seen := fun seen => unseen seen part List.mem_cons_self isKey
        have taken : ∃ first, shape.take? other part = some first := by
          cases known : shape.field? key with
          | none => exact ⟨_, take?_eq_some.mpr ⟨key, isKey, .inl ⟨known, rfl⟩⟩⟩
          | some field =>
              rcases readablePart isKey field known with ⟨change, isChange⟩
              exact ⟨_, take?_eq_some.mpr
                ⟨key, isKey, .inr ⟨field, change, known, notSeen, isChange, rfl⟩⟩⟩
        rcases taken with ⟨first, taken⟩
        have unchanged := disregards.sameBut_symm (disregards.take?_key isKey madePart taken)
        rw [partsBut, List.filter_cons_of_neg (by simp [isKey])] at folds
        rw [List.foldlM_cons, taken]
        exact induction madeParts readableParts once
          (fun _ later isLater => noLater later isLater isKey)
          (disregards.sameBut_trans alike unchanged) folds
      case neg =>
        rw [partsBut, List.filter_cons_of_pos (by simp [isKey]), List.foldlM_cons,
          Option.bind_eq_bind, Option.bind_eq_some_iff] at folds
        rcases folds with ⟨first, taken, folds⟩
        rcases disregards.take?_other isKey madePart alike taken with ⟨after, takenToo, alike⟩
        have stillUnseen : key ∈ after.seen → ∀ part ∈ parts, part.key? ≠ some key := by
          intro seen later isLater
          refine unseen ?_ later (List.mem_cons_of_mem part isLater)
          exact seen_of_take? isKey takenToo seen
        rw [List.foldlM_cons, takenToo]
        exact induction madeParts readableParts once stillUnseen alike folds

/-! ## Records -/

theorem finish?_sameBut (disregards : shape.Disregards key same)
    (alike : SameBut key same draft other) {value : σ}
    (finishes : shape.finish? draft = some value) :
    ∃ found, shape.finish? other = some found ∧ same value found := by
  have missing : shape.missing? draft.seen = shape.missing? other.seen := by
    refine List.find?_congr fun field isField => ?_
    by_cases isKey : field.name = key
    · rw [disregards.optional field isField isKey]
      rfl
    · simp only [List.contains_eq_mem, alike.2 field.name isKey]
  rw [finish?] at finishes ⊢
  rw [← missing]
  cases isMissing : shape.missing? draft.seen with
  | some field =>
      rw [isMissing] at finishes
      cases finishes
  | none =>
      rw [isMissing] at finishes
      cases finishes
      exact ⟨other.value, rfl, alike.1⟩

/-- Members with the key may be replaced, left out and put anywhere. -/
theorem bind_finish? (disregards : shape.Disregards key same) {others : List (Part σ)}
    (agree : partsBut key parts = partsBut key others) (made : ∀ part ∈ parts, shape.IsMade part)
    (othersMade : ∀ part ∈ others, shape.IsMade part)
    (readable : ∀ part ∈ others, part.key? = some key → ∀ field ∈ shape.field? key,
      ∃ change, part.change? = some change)
    (once : others.Pairwise fun part later => part.key? = some key → later.key? ≠ some key)
    {value : σ}
    (found : (parts.foldlM shape.take? ⟨shape.blank, []⟩).bind shape.finish? = some value) :
    ∃ other, (others.foldlM shape.take? ⟨shape.blank, []⟩).bind shape.finish? = some other ∧
      same value other := by
  rcases Option.bind_eq_some_iff.mp found with ⟨last, folds, finishes⟩
  have start : SameBut key same (⟨shape.blank, []⟩ : Draft σ) ⟨shape.blank, []⟩ :=
    ⟨disregards.equivalence.refl _, fun _ _ => Iff.rfl⟩
  rcases disregards.foldlM_partsBut made start folds with ⟨without, foldsWithout, alikeWithout⟩
  rw [agree] at foldsWithout
  rcases disregards.foldlM_of_partsBut othersMade readable once
    (fun seen => absurd seen List.not_mem_nil) start foldsWithout with
    ⟨after, foldsAfter, alikeAfter⟩
  have alike := disregards.sameBut_trans alikeWithout alikeAfter
  rcases disregards.finish?_sameBut alike finishes with ⟨other, finishesToo, isSame⟩
  exact ⟨other, by rw [foldsAfter]; exact finishesToo, isSame⟩

end Disregards

/-! ## Values -/

theorem partsBut_partOf (shape : RecordShape σ) (key : String) (surplus : Surplus)
    (members : List (String × Json)) :
    partsBut key (members.map (shape.partOf surplus)) =
      (membersBut key members).map (shape.partOf surplus) := by
  rw [partsBut, membersBut, List.filter_map]
  simp [Function.comp_def, partOf]

theorem Disregards.ofMembers (disregards : shape.Disregards key same) (surplus : Surplus)
    {members others : List (String × Json)} (agree : membersBut key members = membersBut key others)
    (once : others.Pairwise fun member later => member.1 = key → later.1 ≠ key) {value : σ}
    (found : shape.ofMembers surplus members = .ok value) :
    ∃ other, shape.ofMembers surplus others = .ok other ∧ same value other := by
  have parts : partsBut key (members.map (shape.partOf surplus)) =
      partsBut key (others.map (shape.partOf surplus)) := by
    rw [partsBut_partOf, partsBut_partOf, agree]
  have made (members : List (String × Json)) :
      ∀ part ∈ members.map (shape.partOf surplus), shape.IsMade part :=
    List.forall_mem_map.mpr fun member _ => isMade_partOf surplus member
  have readable : ∀ part ∈ others.map (shape.partOf surplus), part.key? = some key →
      ∀ field ∈ shape.field? key, ∃ change, part.change? = some change := by
    rw [List.forall_mem_map]
    rintro ⟨name, item⟩ - isKey field isField
    cases isKey
    rcases mem_of_field? isField with ⟨isMember, isName⟩
    rcases disregards.own field isMember isName with ⟨put, update, -⟩
    refine ⟨put item, ?_⟩
    rw [partOf, show shape.field? name = some field from isField, Option.bind_some, update]
    rfl
  have oncePart : (others.map (shape.partOf surplus)).Pairwise fun part later =>
      part.key? = some key → later.key? ≠ some key := by
    rw [List.pairwise_map]
    refine once.imp fun notLater isKey isLater => ?_
    exact notLater (Option.some.inj isKey) (Option.some.inj isLater)
  rw [← Outcome.toOption_eq_some, toOption_ofMembers] at found
  rcases disregards.bind_finish? parts (made members) (made others) readable oncePart found with
    ⟨other, foundOther, isSame⟩
  rw [← toOption_ofMembers, Outcome.toOption_eq_some] at foundOther
  exact ⟨other, foundOther, isSame⟩

theorem ofJson_record (shape : RecordShape σ) (surplus : Surplus) (members : List (String × Json)) :
    shape.ofJson surplus (record members) = shape.ofMembers surplus members := by
  rw [record, ofJson, Members.toList_ofList]

theorem Disregards.ofJson_canonical (disregards : shape.Disregards key same) (surplus : Surplus)
    {item other : Json} (agrees : item.AgreesBut key other) {value : σ}
    (found : shape.ofJson surplus item.canonical = .ok value) :
    ∃ result, shape.ofJson surplus other.canonical = .ok result ∧ same value result := by
  cases agrees with
  | same => exact ⟨value, found, disregards.equivalence.refl value⟩
  | @object members others agree =>
      rw [canonical_record, ofJson_record] at found ⊢
      have ascending : (canonicalMembers (.ofList others) .nil).toList.Pairwise
          fun member later => member.1 < later.1 :=
        Members.isAscending_canonicalMembers _ Members.isAscending_nil
      refine disregards.ofMembers surplus (membersBut_canonical agree) ?_ found
      exact ascending.imp fun before isKey isLater => before.ne (isKey.trans isLater.symm)

/-! ## Texts -/

/-- From two objects that agree but for the members of the key the same is read, if the second one
has at most one of them, and any value can be read from it. -/
theorem Disregards.exists_tells_object (disregards : shape.Disregards key same)
    (steady : shape.IsSteady) {members others : List (List TextPart × Outline)}
    (agree : Outline.membersBut key members = Outline.membersBut key others)
    (once : others.Pairwise fun member later =>
      textValue? member.1 = some key → textValue? later.1 ≠ some key)
    (spellable : ∀ member ∈ members, member.2.IsSpellable)
    (othersSpellable : ∀ member ∈ others, member.2.IsSpellable) {depth : Nat}
    (readable : ∀ member ∈ others, ∃ found,
      member.2.Tells Format.any.read depth (some found)) :
    ∃ value? other?, (Outline.object members).Tells shape.read (depth + 1) value? ∧
      (Outline.object others).Tells shape.read (depth + 1) other? ∧
      ∀ value ∈ value?, ∃ other ∈ other?, same value other := by
  have exists_change (member : List TextPart × Outline) : ∃ change?, member.2.IsSpellable →
      ∀ field ∈ (textValue? member.1).bind shape.field?,
        member.2.Tells field.update.read depth change? := by
    by_cases spellable : member.2.IsSpellable
    · rcases steady.exists_change member.1 member.2.reorders_refl spellable depth with
        ⟨change?, tells⟩
      exact ⟨change?, fun _ field isField => (tells field isField).1⟩
    · exact ⟨none, fun isSpellable => absurd isSpellable spellable⟩
  choose change? tells using exists_change
  let part (member : List TextPart × Outline) : Part σ := ⟨textValue? member.1, change? member⟩
  have tellsObject {members : List (List TextPart × Outline)}
      (spellable : ∀ member ∈ members, member.2.IsSpellable) :
      (Outline.object members).Tells shape.read (depth + 1)
        (((members.map part).foldlM shape.take? ⟨shape.blank, []⟩).bind shape.finish?) := by
    have takes : List.Forall₂ (TakesMember shape.readMember depth shape.take?) members
        (members.map part) := by
      rw [List.forall₂_map_right_iff, List.forall₂_same]
      exact fun member isMember => takesMember_part rfl (tells member (spellable member isMember))
    have tellsMembers : TellsMembers shape.readMembers depth members
        (((members.map part).foldlM shape.take? ⟨shape.blank, []⟩).bind shape.finish?) :=
      tellsMembers_fold takes ⟨shape.blank, []⟩ shape.gives_finish
    apply tells_object_succ shape.opensObject_read
    exact tellsMembers
  have made {members : List (List TextPart × Outline)}
      (spellable : ∀ member ∈ members, member.2.IsSpellable) :
      ∀ told ∈ members.map part, shape.IsMade told := by
    refine List.forall_mem_map.mpr fun member isMember => ?_
    exact isMade_of_tells (spellable member isMember) (tells member (spellable member isMember))
  have parts (members : List (List TextPart × Outline)) :
      partsBut key (members.map part) = (Outline.membersBut key members).map part := by
    rw [partsBut, List.filter_map]
    rfl
  have readableParts : ∀ told ∈ others.map part, told.key? = some key →
      ∀ field ∈ shape.field? key, ∃ change, told.change? = some change := by
    refine List.forall_mem_map.mpr fun member isMember isKey field isField => ?_
    rcases mem_of_field? isField with ⟨isFieldOfShape, isName⟩
    rcases disregards.own field isFieldOfShape isName with ⟨put, update, -⟩
    rcases readable member isMember with ⟨found, tellsFound⟩
    have isSpellable := othersSpellable member isMember
    have tellsChange : member.2.Tells field.update.read depth (change? member) := by
      refine tells member isSpellable field ?_
      rw [show textValue? member.1 = some key from isKey]
      exact isField
    rw [update] at tellsChange
    exact ⟨put found, tellsChange.unique (tellsFound.map put) isSpellable⟩
  refine ⟨_, _, tellsObject spellable, tellsObject othersSpellable, fun value found => ?_⟩
  exact disregards.bind_finish? (by rw [parts, parts, agree]) (made spellable)
    (made othersSpellable) readableParts (List.pairwise_map.mpr once) found

theorem Disregards.exists_tells (disregards : shape.Disregards key same) (steady : shape.IsSteady)
    {item other : Outline} (agrees : item.AgreesBut key other) (spellable : item.IsSpellable)
    (otherSpellable : other.IsSpellable) {depth : Nat} {found : Json}
    (readable : other.Tells Format.any.read depth (some found)) :
    ∃ value? other?, item.Tells shape.read depth value? ∧ other.Tells shape.read depth other? ∧
      ∀ value ∈ value?, ∃ result ∈ other?, same value result := by
  cases agrees with
  | same =>
      rcases steady.format.read item.reorders_refl spellable depth with ⟨value?, tells, -⟩
      exact ⟨value?, value?, tells, tells, fun value isValue =>
        ⟨value, isValue, disregards.equivalence.refl value⟩⟩
  | @object members others agree once =>
      cases depth with
      | zero =>
          exact ⟨none, none, tells_object_zero shape.opensObject_read,
            tells_object_zero shape.opensObject_read, nofun⟩
      | succ depth =>
          have alone : (others.filter fun member => textValue? member.1 = some key).Pairwise
              fun _ _ => False :=
            List.pairwise_iff_getElem.mpr fun index later isIndex isLater before => by omega
          have once : others.Pairwise fun member later =>
              textValue? member.1 = some key → textValue? later.1 ≠ some key := by
            simpa [List.pairwise_filter] using alone
          exact disregards.exists_tells_object steady agree once spellable.members
            otherSpellable.members (readable.exists_tells_member otherSpellable)

/-! ## Lists of records -/

theorem Disregards.exists_tells_items (disregards : shape.Disregards key same)
    (steady : shape.IsSteady) {items others : List Outline}
    (agree : List.Forall₂ (Outline.AgreesBut key) items others)
    (spellable : ∀ item ∈ items, item.IsSpellable)
    (othersSpellable : ∀ other ∈ others, other.IsSpellable) {depth : Nat}
    (readable : ∀ other ∈ others, ∃ found, other.Tells Format.any.read depth (some found)) :
    ∃ told after, List.Forall₂ (Outline.Tells shape.read depth) items told ∧
      List.Forall₂ (Outline.Tells shape.read depth) others after ∧
      List.Forall₂ (fun value? other? => ∀ value ∈ value?, ∃ result ∈ other?, same value result)
        told after := by
  have inOthers := (List.forall₂_and_left _ _).mpr
    ⟨fun other isOther => And.intro (othersSpellable other isOther) (readable other isOther),
      agree.flip⟩
  refine exists_lists inOthers.flip fun item isItem other isAlike => ?_
  rcases isAlike with ⟨⟨otherSpellable, found, tellsFound⟩, agrees⟩
  exact disregards.exists_tells steady agrees (spellable item isItem) otherSpellable tellsFound

theorem foldlM_collect_same {told after : List (Option σ)}
    (follows : List.Forall₂ (fun value? other? => ∀ value ∈ value?, ∃ result ∈ other?,
      same value result) told after) {before values start : List σ}
    (areSame : List.Forall₂ same before start)
    (collected : told.foldlM collect before = some values) :
    ∃ results, after.foldlM collect start = some results ∧ List.Forall₂ same values results := by
  induction follows generalizing before start with
  | nil =>
      cases collected
      exact ⟨start, rfl, areSame⟩
  | @cons value? other? told after first rest induction =>
      rw [List.foldlM_cons] at collected
      cases value? with
      | none => cases collected
      | some value =>
          rcases first value rfl with ⟨result, rfl, isSame⟩
          exact induction (.cons isSame areSame) collected

/-- From two texts whose arrays agree but for the key in their items the same is read, if any value
can be read from the second one. -/
theorem Disregards.parse_list (disregards : shape.Disregards key same) (steady : shape.IsSteady)
    {items others : List Outline} (agree : List.Forall₂ (Outline.AgreesBut key) items others)
    {text changed : String} (isOutline : (Outline.array items).IsOutlineOf text)
    (isChanged : (Outline.array others).IsOutlineOf changed) {found : Json}
    (readable : parse changed = .ok found) {values : List σ}
    (parsed : shape.format.list.parse text = .ok values) :
    ∃ results, shape.format.list.parse changed = .ok results ∧
      List.Forall₂ same values results := by
  rcases disregards.exists_tells_items steady agree isOutline.isSpellable.items
    isChanged.isSpellable.items (exists_tells_of_parse isChanged readable) with
    ⟨told, after, tells, tellsOthers, follows⟩
  have tellsList {items : List Outline} {told : List (Option σ)}
      (tells : List.Forall₂ (Outline.Tells shape.read 126) items told) :
      (Outline.array items).Tells shape.format.list.read 127
        ((told.foldlM collect []).map List.reverse) :=
    tells_array_succ Format.opensArray_list (tellsItems_fold tells List.reverse)
  rw [← Outcome.toOption_eq_some, toOption_parse (tellsList tells) isOutline] at parsed
  rcases Option.map_eq_some_iff.mp parsed with ⟨read, collected, rfl⟩
  rcases foldlM_collect_same follows .nil collected with ⟨results, collectedOthers, areSame⟩
  refine ⟨results.reverse, ?_, List.rel_reverse areSame⟩
  rw [← Outcome.toOption_eq_some, toOption_parse (tellsList tellsOthers) isChanged, collectedOthers]
  rfl

end RecordShape

end Bulletin.Json
