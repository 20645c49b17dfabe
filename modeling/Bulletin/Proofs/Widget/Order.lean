import Bulletin.Proofs.Json.RecordOrder
import Bulletin.Proofs.Json.SettingAside
import Bulletin.Widget.Format
/-!
# Widgets in any order of members

The id and the tag of a widget may stand before, between or behind the fields of its body, and
unknown members among them.
-/

namespace Bulletin

open Json (Format InOthers Outline Portion RecordShape ReordersMember ReordersMembers Sorted)
open Json (Surplus TakesMember TextPart textValue?)
open Json (setAside setAside_name setAside_other)
open Json.Field (commutes_defaulted)
open Json.Format (steady_text steady_flag)

/-! ## Variants and nested items -/

theorem ButtonVariant.steady_format : format.IsSteady :=
  steady_text.map ofName

theorem NoticeVariant.steady_format : format.IsSteady :=
  steady_text.map ofName

theorem HeadingLevel.steady_format : format.IsSteady :=
  steady_text.map ofName

theorem LinkButton.steady_shape : shape.IsSteady where
  fields := by simp [shape, steady_text.defaulted, ButtonVariant.steady_format.defaulted]
  commute := by simp [shape, commutes_defaulted]

theorem ListEntry.steady_shape : shape.IsSteady where
  fields := by simp [shape, steady_text.defaulted]
  commute := by simp [shape, commutes_defaulted]

theorem DetailRow.steady_shape : shape.IsSteady where
  fields := by simp [shape, steady_text.defaulted]
  commute := by simp [shape, commutes_defaulted]

/-! ## Bodies -/

theorem Paragraph.steady_shape : shape.IsSteady where
  fields := by simp [shape, steady_text.defaulted, steady_flag.optional.defaulted]
  commute := by simp [shape, commutes_defaulted]

theorem Heading.steady_shape : shape.IsSteady where
  fields := by simp [shape, steady_text.defaulted, HeadingLevel.steady_format.defaulted]
  commute := by simp [shape, commutes_defaulted]

theorem SingleButton.steady_shape : shape.IsSteady where
  fields := by simp [shape, steady_text.defaulted, ButtonVariant.steady_format.defaulted]
  commute := by simp [shape, commutes_defaulted]

theorem ButtonGroup.steady_shape : shape.IsSteady where
  fields := by simp [shape, LinkButton.steady_shape.format.list.defaulted]
  commute := by simp [shape]

theorem ItemList.steady_shape : shape.IsSteady where
  fields := by
    simp [shape, ListEntry.steady_shape.format.list.defaulted, steady_flag.optional.defaulted]
  commute := by simp [shape, commutes_defaulted]

theorem Notice.steady_shape : shape.IsSteady where
  fields := by simp [shape, steady_text.defaulted, NoticeVariant.steady_format.defaulted]
  commute := by simp [shape, commutes_defaulted]

theorem Meeting.steady_shape : shape.IsSteady where
  fields := by
    simp [shape, steady_text.defaulted, DetailRow.steady_shape.format.list.defaulted,
      LinkButton.steady_shape.format.list.defaulted]
  commute := by simp [shape, commutes_defaulted]

theorem Video.steady_shape : shape.IsSteady where
  fields := by simp [shape, steady_text.defaulted, steady_text.optional.defaulted]
  commute := by simp [shape, commutes_defaulted]

theorem MapEmbed.steady_shape : shape.IsSteady where
  fields := by simp [shape, steady_text.defaulted, steady_text.optional.defaulted]
  commute := by simp [shape, commutes_defaulted]

theorem Image.steady_shape : shape.IsSteady where
  fields := by simp [shape, steady_text.defaulted, steady_text.optional.defaulted]
  commute := by simp [shape, commutes_defaulted]

namespace WidgetBody

theorem toOption_ofEmptyPayload (body : WidgetBody) {payload other : Json}
    (reorders : payload.Reorders other) :
    (ofEmptyPayload body payload).toOption = (ofEmptyPayload body other).toOption := by
  cases reorders with
  | array inItems => cases inItems <;> rfl
  | _ => rfl

theorem toOption_ofPayload {payload other : Json} (reorders : payload.Reorders other)
    (kind? : Option WidgetKind) :
    (ofPayload payload kind?).toOption = (ofPayload other kind?).toOption := by
  have body {σ : Type} {shape : RecordShape σ} (steady : shape.IsSteady) (make : σ → WidgetBody) :
      ((shape.ofJson .counted payload).map make).toOption =
        ((shape.ofJson .counted other).map make).toOption := by
    rw [Outcome.toOption_map, Outcome.toOption_map]
    exact congrArg (Option.map make) (steady.format.ofJson .counted reorders)
  cases kind? with
  | none => exact toOption_ofEmptyPayload .unknown reorders
  | some kind =>
      cases kind with
      | text => exact body Paragraph.steady_shape .text
      | heading => exact body Heading.steady_shape .heading
      | button => exact body SingleButton.steady_shape .button
      | buttonGroup => exact body ButtonGroup.steady_shape .buttonGroup
      | list => exact body ItemList.steady_shape .list
      | divider => exact toOption_ofEmptyPayload .divider reorders
      | notice => exact body Notice.steady_shape .notice
      | meeting => exact body Meeting.steady_shape .meeting
      | video => exact body Video.steady_shape .video
      | map => exact body MapEmbed.steady_shape .map
      | image => exact body Image.steady_shape .image

/-! ## Tags -/

theorem toOption_ofTagJson {tag other : Json} (reorders : tag.Reorders other) :
    (WidgetKind.ofTagJson tag).toOption = (WidgetKind.ofTagJson other).toOption := by
  cases reorders <;> rfl

namespace Tagged

def portion (member : String × Json) : Portion (Option WidgetKind) :=
  ⟨some member.1, (WidgetKind.ofTagJson member.2).toOption, some member.2⟩

theorem portion_alike {member other : String × Json} (reorders : ReordersMember member other) :
    (portion member).IsAlike (portion other) := by
  cases reorders with
  | value inValue => exact ⟨rfl, toOption_ofTagJson inValue, .some inValue⟩

def ofSorted (sorted : Sorted (Option WidgetKind)) : Tagged :=
  ⟨sorted.1, sorted.2⟩

theorem toOption_take (sorted : Sorted (Option WidgetKind)) (member : String × Json) :
    (take (ofSorted sorted) member).toOption =
      (setAside tagKey sorted (portion member)).map ofSorted := by
  rcases sorted with ⟨found, members⟩
  rcases member with ⟨key, value⟩
  by_cases isTag : key = tagKey
  · subst isTag
    rw [portion, setAside_name]
    cases found with
    | some kind? => rfl
    | none =>
        simp only [take, ofSorted, if_true, Outcome.toOption_map]
        cases (WidgetKind.ofTagJson value).toOption <;> rfl
  · rw [portion, setAside_other isTag, take]
    simp only [isTag, if_false]
    rfl

theorem toOption_body {sorted other : Sorted (Option WidgetKind)}
    (related : InOthers ReordersMembers sorted other) :
    (ofSorted sorted).body.toOption = (ofSorted other).body.toOption := by
  rcases sorted with ⟨found, members⟩
  rcases other with ⟨_, others⟩
  rcases related with ⟨rfl, reorders⟩
  cases found with
  | none => rfl
  | some kind? => exact toOption_ofPayload reorders.reverse.record kind?

end Tagged

theorem ofMembers_reorders {members others : List (String × Json)}
    (reorders : ReordersMembers members others) :
    (ofMembers members).toOption = (ofMembers others).toOption := by
  rw [ofMembers, ofMembers, Outcome.toOption_bind, Outcome.toOption_bind]
  exact Json.toOption_foldlM_reorders Tagged.toOption_take (fun _ _ => Tagged.portion_alike)
    (fun _ _ => Tagged.toOption_body) reorders

end WidgetBody

/-! ## Ids -/

namespace Widget

namespace Gathered

def ofSorted (sorted : Sorted String) : Gathered :=
  ⟨sorted.1, sorted.2⟩

theorem toOption_widget {sorted other : Sorted String}
    (related : InOthers ReordersMembers sorted other) :
    (ofSorted sorted).widget.toOption = (ofSorted other).widget.toOption := by
  rcases sorted with ⟨found, members⟩
  rcases other with ⟨_, others⟩
  rcases related with ⟨rfl, reorders⟩
  simp only [widget, ofSorted, Outcome.toOption_map, WidgetBody.ofMembers_reorders reorders.reverse]

/-! ### In a value -/

def portion (surplus : Surplus) (member : String × Json) : Portion String :=
  ⟨some member.1, (Format.text.ofJson surplus member.2).toOption, some member.2⟩

theorem portion_alike (surplus : Surplus) {member other : String × Json}
    (reorders : ReordersMember member other) :
    (portion surplus member).IsAlike (portion surplus other) := by
  cases reorders with
  | value inValue => exact ⟨rfl, steady_text.ofJson surplus inValue, .some inValue⟩

theorem toOption_take (surplus : Surplus) (sorted : Sorted String) (member : String × Json) :
    (take surplus (ofSorted sorted) member).toOption =
      (setAside idKey sorted (portion surplus member)).map ofSorted := by
  rcases sorted with ⟨found, members⟩
  rcases member with ⟨key, value⟩
  by_cases isId : key = idKey
  · subst isId
    rw [portion, setAside_name]
    cases found with
    | some id => rfl
    | none =>
        simp only [take, ofSorted, if_true, Outcome.toOption_map]
        cases (Format.text.ofJson surplus value).toOption <;> rfl
  · rw [portion, setAside_other isId, take]
    simp only [isId, if_false]
    rfl

end Gathered

theorem ofJson_reorders (surplus : Surplus) {members others : List (String × Json)}
    (reorders : ReordersMembers members others) :
    (ofJson surplus (.record members)).toOption = (ofJson surplus (.record others)).toOption := by
  simp only [Json.record, ofJson, Json.Members.toList_ofList]
  rw [Outcome.toOption_bind, Outcome.toOption_bind]
  exact Json.toOption_foldlM_reorders (Gathered.toOption_take surplus)
    (fun _ _ => Gathered.portion_alike surplus) (fun _ _ => Gathered.toOption_widget) reorders

/-! ### In a text -/

def Gathered.sort (gathered : Gathered) (portion : Portion String) : Option Gathered :=
  (setAside idKey (gathered.id, gathered.members) portion).map Gathered.ofSorted

theorem takesMember_portion {depth : Nat} {member : List TextPart × Outline}
    {portion : Portion String} (isKey : portion.key? = textValue? member.1)
    (tellsId : member.2.Tells Format.text.read depth portion.aside?)
    (tellsValue : member.2.Tells Format.any.read depth portion.value?) :
    TakesMember readMember depth Gathered.sort member portion where
  noKey noKey gathered := by
    rw [Gathered.sort, setAside, isKey, noKey]
    rfl
  key key isText gathered := by
    rcases portion with ⟨key?, aside?, value?⟩
    rw [isText] at isKey
    cases isKey
    intro before behind chars isBefore isBehind spells steps enough rest boundary offset
    by_cases isId : key = idKey
    · subst isId
      rw [Gathered.sort, setAside_name]
      simp only [readMember, if_true]
      cases found : gathered.id with
      | some id => exact ⟨_, rfl⟩
      | none =>
          let next (id : String) : Gathered := { gathered with id := some id }
          have given := Outline.Tells.member tellsId next isBefore isBehind spells enough boundary
            offset
          cases aside? <;> exact given
    · rw [Gathered.sort, setAside_other isId]
      let next (value : Json) : Gathered :=
        { gathered with members := (key, value) :: gathered.members }
      have given := Outline.Tells.member tellsValue next isBefore isBehind spells enough boundary
        offset
      simp only [readMember, isId, if_false]
      cases value? <;> exact given

theorem exists_portion {member other : List TextPart × Outline}
    (reorders : Outline.ReordersMember member other) (spellable : member.2.IsSpellable)
    (depth : Nat) :
    ∃ portion next, TakesMember readMember depth Gathered.sort member portion ∧
      TakesMember readMember depth Gathered.sort other next ∧ portion.IsAlike next := by
  cases reorders with
  | @value key value other inValue =>
      rcases steady_text.read inValue spellable depth with ⟨id?, tellsId, tellsOtherId⟩
      rcases Json.exists_tells_any value other inValue depth with
        ⟨value?, other?, tellsValue, tellsOther, alike⟩
      exact ⟨⟨textValue? key, id?, value?⟩, ⟨textValue? key, id?, other?⟩,
        takesMember_portion rfl tellsId tellsValue, takesMember_portion rfl tellsOtherId tellsOther,
        rfl, rfl, alike⟩

def finish (read : Gathered × Json.Cursor) : Except Json.Fault (Widget × Json.Cursor) :=
  match read.1.widget with
  | .ok widget => .ok (widget, read.2)
  | .error cause => .error (.pending cause read.2)

theorem gives_finish (gathered : Gathered) (rest : List Char) (offset : Nat) :
    Json.Gives (finish (gathered, ⟨rest, offset⟩)) gathered.widget.toOption rest := by
  rw [finish]
  cases gathered.widget with
  | ok widget => exact ⟨offset, rfl⟩
  | error cause => exact ⟨_, rfl⟩

theorem opensObject_read : Json.OpensObject read readMembers := by
  intro gap isGap allowance rest offset
  simp only [read, Json.skipSpaces_gap isGap (c := '\x7b') rfl]

theorem tells_read_none {outline : Outline} (notObject : ∀ members, outline ≠ .object members)
    (depth : Nat) : outline.Tells read depth none := by
  intro gap chars isGap spells steps _ rest _ offset
  rcases spells.startsWith with ⟨c, more, rfl, startsWith⟩
  simp only [read, List.append_assoc, List.cons_append,
    Json.skipSpaces_gap isGap startsWith.isStart.1]
  split
  · rename_i heads
    cases heads
    cases startsWith with
    | object members => exact absurd rfl (notObject members)
    | digit numeral isDigit => exact absurd isDigit (by decide)
  · exact ⟨_, rfl⟩

theorem foldlM_sort {told others : List (Portion String)} {inPlace : List (Portion String)}
    (inTold : List.Forall₂ Portion.IsAlike told inPlace) (order : inPlace.Perm others) :
    ((told.foldlM Gathered.sort ⟨none, []⟩).bind fun gathered => gathered.widget.toOption) =
      (others.foldlM Gathered.sort ⟨none, []⟩).bind fun gathered => gathered.widget.toOption := by
  have folded (portions : List (Portion String)) :
      portions.foldlM Gathered.sort ⟨none, []⟩ =
        (portions.foldlM (setAside idKey) (none, [])).map Gathered.ofSorted :=
    Json.foldlM_image Gathered.ofSorted (fun _ _ => rfl) portions (none, [])
  rw [folded, folded, Option.bind_map, Option.bind_map]
  exact Json.bind_eq_of_rel (Json.setAside_reorders inTold order) fun _ _ =>
    Gathered.toOption_widget

theorem exists_tellsMembers {members inPlace others : List (List TextPart × Outline)}
    (inMembers : List.Forall₂ Outline.ReordersMember members inPlace)
    (order : inPlace.Perm others) (spellable : ∀ member ∈ members, member.2.IsSpellable)
    (depth : Nat) :
    ∃ value?, Json.TellsMembers readMembers depth members value? ∧
      Json.TellsMembers readMembers depth others value? := by
  rcases Json.exists_lists_perm inMembers order fun member isMember other reorders =>
    exists_portion reorders (spellable member isMember) depth with
    ⟨told, inTold, after, takes, takesOthers, alike, moved⟩
  have sameEnd := foldlM_sort alike moved
  refine ⟨_, Json.tellsMembers_fold takes ⟨none, []⟩ gives_finish, ?_⟩
  rw [sameEnd]
  exact Json.tellsMembers_fold takesOthers ⟨none, []⟩ gives_finish

theorem steady_format : format.IsSteady where
  ofJson surplus value other reorders := by
    cases reorders with
    | object inMembers order =>
        exact ofJson_reorders surplus ⟨_, inMembers, order⟩
    | _ => rfl
  read reorders spellable depth := by
    cases reorders with
    | object inMembers order =>
        cases depth with
        | zero =>
            exact ⟨none, Json.tells_object_zero opensObject_read,
              Json.tells_object_zero opensObject_read⟩
        | succ depth =>
            rcases exists_tellsMembers inMembers order spellable.members depth with
              ⟨value?, tells, tellsOther⟩
            exact ⟨value?, Json.tells_object_succ opensObject_read tells,
              Json.tells_object_succ opensObject_read tellsOther⟩
    | _ => exact ⟨none, tells_read_none (by simp) depth, tells_read_none (by simp) depth⟩

end Widget

end Bulletin
