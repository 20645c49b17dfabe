import Bulletin.Proofs.Document.Proper
import Bulletin.Proofs.Json.Finding
import Bulletin.Widget.Format
/-!
# Widgets written and found again

The formats of widgets, their bodies and their nested items find, in what is written of a value,
that value.
-/

namespace Bulletin

open Json (Format RecordShape)
open Json.Format (finds_text finds_flag finds_list)
open Json.RecordShape (Fills finds_of_fills)

/-! ## Variants -/

theorem ButtonVariant.finds_name {variant : ButtonVariant} (proper : variant.IsProper) :
    format.Finds (.text variant.name) variant := by
  have found := (finds_text variant.name).map ofName
  rw [ofName_name proper] at found
  exact found

theorem NoticeVariant.finds_name {variant : NoticeVariant} (proper : variant.IsProper) :
    format.Finds (.text variant.name) variant := by
  have found := (finds_text variant.name).map ofName
  rw [ofName_name proper] at found
  exact found

theorem HeadingLevel.finds_name {level : HeadingLevel} (proper : level.IsProper) :
    format.Finds (.text level.name) level := by
  have found := (finds_text level.name).map ofName
  rw [ofName_name proper] at found
  exact found

/-! ## Nested items -/

theorem LinkButton.finds_toJson {button : LinkButton} (proper : button.IsProper) :
    shape.format.Finds button.toJson button :=
  finds_of_fills (by decide) <|
    .defaulted (finds_text button.id) <| .defaulted (finds_text button.text) <|
      .defaulted (finds_text button.url) <|
        .defaulted (ButtonVariant.finds_name proper) .nil

theorem ListEntry.finds_toJson (entry : ListEntry) : shape.format.Finds entry.toJson entry :=
  finds_of_fills (by decide) <|
    .defaulted (finds_text entry.id) <| .defaulted (finds_text entry.text) .nil

theorem DetailRow.finds_toJson (row : DetailRow) : shape.format.Finds row.toJson row :=
  finds_of_fills (by decide) <|
    .defaulted (finds_text row.id) <| .defaulted (finds_text row.key) <|
      .defaulted (finds_text row.value) .nil

/-! ## Bodies -/

theorem Paragraph.finds_members (body : Paragraph) :
    shape.format.Finds (.record body.members) body := by
  have fills : Fills shape.fields shape.blank
      (("content", .text body.content) :: (Json.member? "isBold" (body.isBold.map .boolean) ++
        (Json.member? "isItalic" (body.isItalic.map .boolean) ++ []))) body :=
    .defaulted (finds_text body.content) <|
      .member? finds_flag (by simp) rfl <| .member? finds_flag (by simp) rfl .nil
  rw [List.append_nil] at fills
  exact finds_of_fills (by decide) fills

theorem Heading.finds_members {body : Heading} (proper : body.level.IsProper) :
    shape.format.Finds (.record body.members) body :=
  finds_of_fills (by decide) <|
    .defaulted (finds_text body.text) <| .defaulted (HeadingLevel.finds_name proper) .nil

theorem SingleButton.finds_members {body : SingleButton} (proper : body.variant.IsProper) :
    shape.format.Finds (.record body.members) body :=
  finds_of_fills (by decide) <|
    .defaulted (finds_text body.text) <| .defaulted (finds_text body.url) <|
      .defaulted (ButtonVariant.finds_name proper) .nil

theorem ButtonGroup.finds_members {body : ButtonGroup}
    (proper : ∀ button ∈ body.buttons, button.IsProper) :
    shape.format.Finds (.record body.members) body := by
  have buttons := finds_list fun button member => LinkButton.finds_toJson (proper button member)
  exact finds_of_fills (by decide) (.defaulted buttons .nil)

theorem ItemList.finds_members (body : ItemList) :
    shape.format.Finds (.record body.members) body := by
  have items := finds_list fun entry (_ : entry ∈ body.items) => entry.finds_toJson
  have fills : Fills shape.fields shape.blank
      (("items", .list (body.items.map ListEntry.toJson)) ::
        (Json.member? "ordered" (body.isOrdered.map .boolean) ++ [])) body :=
    .defaulted items <| .member? finds_flag (by simp) rfl .nil
  rw [List.append_nil] at fills
  exact finds_of_fills (by decide) fills

theorem Notice.finds_members {body : Notice} (proper : body.variant.IsProper) :
    shape.format.Finds (.record body.members) body :=
  finds_of_fills (by decide) <|
    .defaulted (finds_text body.content) <| .defaulted (NoticeVariant.finds_name proper) .nil

theorem Meeting.finds_members {body : Meeting}
    (proper : ∀ button ∈ body.buttons, button.IsProper) :
    shape.format.Finds (.record body.members) body := by
  have details := finds_list fun row (_ : row ∈ body.details) => row.finds_toJson
  have buttons := finds_list fun button member => LinkButton.finds_toJson (proper button member)
  exact finds_of_fills (by decide) <|
    .defaulted (finds_text body.title) <| .defaulted details <| .defaulted buttons .nil

theorem Video.finds_members (body : Video) : shape.format.Finds (.record body.members) body := by
  have fills : Fills shape.fields shape.blank
      (("url", .text body.url) :: (Json.member? "title" (body.title.map .text) ++ [])) body :=
    .defaulted (finds_text body.url) <| .member? finds_text (by simp) rfl .nil
  rw [List.append_nil] at fills
  exact finds_of_fills (by decide) fills

theorem MapEmbed.finds_members (body : MapEmbed) :
    shape.format.Finds (.record body.members) body := by
  have fills : Fills shape.fields shape.blank
      (("embedUrl", .text body.embedUrl) :: (Json.member? "title" (body.title.map .text) ++ []))
      body :=
    .defaulted (finds_text body.embedUrl) <| .member? finds_text (by simp) rfl .nil
  rw [List.append_nil] at fills
  exact finds_of_fills (by decide) fills

theorem Image.finds_members (body : Image) : shape.format.Finds (.record body.members) body := by
  have fills : Fills shape.fields shape.blank
      (("url", .text body.url) :: (Json.member? "alt" (body.alt.map .text) ++
        (Json.member? "width" (body.width.map .text) ++ []))) body :=
    .defaulted (finds_text body.url) <|
      .member? finds_text (by simp) rfl <| .member? finds_text (by simp) rfl .nil
  rw [List.append_nil] at fills
  exact finds_of_fills (by decide) fills

/-! ## Widgets -/

theorem Json.key_of_mem_member? {key : String} {value? : Option Json} {member : String × Json}
    (isMember : member ∈ Json.member? key value?) : member.1 = key := by
  cases value? with
  | none => cases isMember
  | some value => rw [List.mem_singleton.mp isMember]

namespace WidgetBody

def fields : WidgetBody → List (String × Json)
  | .text body => body.members
  | .heading body => body.members
  | .button body => body.members
  | .buttonGroup body => body.members
  | .list body => body.members
  | .divider => []
  | .notice body => body.members
  | .meeting body => body.members
  | .video body => body.members
  | .map body => body.members
  | .image body => body.members
  | .unknown => []

def tag (body : WidgetBody) : String :=
  match body.kind? with
  | some kind => kind.tag
  | none => "unknown"

theorem members_eq (body : WidgetBody) :
    body.members = (tagKey, .text body.tag) :: body.fields := by
  cases body <;> rfl

theorem ofTag?_tag (body : WidgetBody) : WidgetKind.ofTag? body.tag = body.kind? := by
  rw [tag]
  cases body.kind? with
  | some kind => exact WidgetKind.ofTag?_tag kind
  | none => decide +kernel

def fieldNames : List String :=
  ["content", "isBold", "isItalic", "text", "level", "url", "variant", "buttons", "items",
    "ordered", "title", "details", "embedUrl", "alt", "width"]

theorem mem_fieldNames {body : WidgetBody} {member : String × Json}
    (isField : member ∈ body.fields) : member.1 ∈ fieldNames := by
  have optional := @Json.key_of_mem_member?
  cases body with
  | divider => cases isField
  | unknown => cases isField
  | _ =>
      simp only [fields, Paragraph.members, Heading.members, SingleButton.members,
        ButtonGroup.members, ItemList.members, Notice.members, Meeting.members, Video.members,
        MapEmbed.members, Image.members, List.mem_cons, List.mem_append, List.not_mem_nil,
        or_false, or_assoc, fieldNames] at isField ⊢
      grind

theorem foldlM_take {members : List (String × Json)}
    (others : ∀ member ∈ members, member.1 ≠ tagKey)
    (kind : Option (Option WidgetKind)) (before : List (String × Json)) :
    members.foldlM Tagged.take ⟨kind, before⟩ = .ok ⟨kind, members.reverse ++ before⟩ := by
  induction members generalizing before with
  | nil => rfl
  | cons member members induction =>
      have rest := induction (fun other later => others other (List.mem_cons_of_mem member later))
        (member :: before)
      rw [List.foldlM_cons, Tagged.take, if_neg (others member List.mem_cons_self),
        Outcome.ok_bind, rest, List.reverse_cons, List.append_assoc]
      rfl

theorem ofPayload_fields {body : WidgetBody} (proper : body.IsProper) :
    ofPayload (.record body.fields) body.kind? = .ok body := by
  cases body with
  | text body => exact Outcome.map_eq_ok.mpr ⟨body, body.finds_members.ofJson .counted, rfl⟩
  | heading body =>
      exact Outcome.map_eq_ok.mpr ⟨body, (Heading.finds_members proper).ofJson .counted, rfl⟩
  | button body =>
      exact Outcome.map_eq_ok.mpr ⟨body, (SingleButton.finds_members proper).ofJson .counted, rfl⟩
  | buttonGroup body =>
      exact Outcome.map_eq_ok.mpr ⟨body, (ButtonGroup.finds_members proper).ofJson .counted, rfl⟩
  | list body => exact Outcome.map_eq_ok.mpr ⟨body, body.finds_members.ofJson .counted, rfl⟩
  | divider => rfl
  | notice body =>
      exact Outcome.map_eq_ok.mpr ⟨body, (Notice.finds_members proper).ofJson .counted, rfl⟩
  | meeting body =>
      exact Outcome.map_eq_ok.mpr ⟨body, (Meeting.finds_members proper).ofJson .counted, rfl⟩
  | video body => exact Outcome.map_eq_ok.mpr ⟨body, body.finds_members.ofJson .counted, rfl⟩
  | map body => exact Outcome.map_eq_ok.mpr ⟨body, body.finds_members.ofJson .counted, rfl⟩
  | image body => exact Outcome.map_eq_ok.mpr ⟨body, body.finds_members.ofJson .counted, rfl⟩
  | unknown => rfl

theorem ofMembers_members {body : WidgetBody} (proper : body.IsProper) :
    ofMembers body.members = .ok body := by
  have keys : ∀ member ∈ body.fields, member.1 ≠ tagKey := by
    intro member isField same
    exact absurd (mem_fieldNames isField) (same ▸ by decide)
  have taken := foldlM_take keys (some body.kind?) []
  rw [members_eq, ofMembers, List.foldlM_cons, Tagged.take, if_pos rfl]
  simp only [WidgetKind.ofTagJson, ofTag?_tag, Outcome.map_ok, Outcome.ok_bind, taken, Tagged.body,
    List.append_nil, List.reverse_reverse]
  exact ofPayload_fields proper

end WidgetBody

namespace Widget

theorem key_ne_of_mem_members {body : WidgetBody} {member : String × Json}
    (isMember : member ∈ body.members) : member.1 ≠ idKey := by
  rw [WidgetBody.members_eq] at isMember
  rcases List.mem_cons.mp isMember with rfl | isField
  · exact show WidgetBody.tagKey ≠ idKey by decide
  · intro same
    exact absurd (WidgetBody.mem_fieldNames isField) (same ▸ by decide)

/-- What a member does to what was gathered before, where nothing fails. -/
def Takes (gathered : Gathered) (member : String × Json) (next : Gathered) : Prop :=
  (member.1 ≠ idKey ∧ next = { gathered with members := member :: gathered.members }) ∨
    ∃ id, member = (idKey, .text id) ∧ gathered.id = none ∧
      next = { gathered with id := some id }

theorem run_takes {members : List (String × Json)}
    (others : ∀ member ∈ members, member.1 ≠ idKey) (gathered : Gathered) :
    Json.Run Takes gathered members ⟨gathered.id, members.reverse ++ gathered.members⟩ := by
  induction members generalizing gathered with
  | nil => exact .nil
  | cons member members induction =>
      have first := others member List.mem_cons_self
      have rest := induction
        (fun other later => others other (List.mem_cons_of_mem member later))
        { gathered with members := member :: gathered.members }
      rw [List.reverse_cons, List.append_assoc]
      exact .cons (.inl ⟨first, rfl⟩) rest

theorem foldlM_take (surplus : Json.Surplus) {gathered last : Gathered}
    {members : List (String × Json)} (run : Json.Run Takes gathered members last) :
    members.foldlM (Gathered.take surplus) gathered = .ok last := by
  induction run with
  | nil => rfl
  | @cons gathered next last member members first rest induction =>
      rw [List.foldlM_cons]
      rcases first with ⟨isOther, rfl⟩ | ⟨id, rfl, isFirst, rfl⟩
      · rw [Gathered.take, if_neg isOther]
        exact induction
      · rw [Gathered.take, if_pos rfl, isFirst]
        exact induction

theorem finds_toJson {widget : Widget} (proper : widget.IsProper) :
    format.Finds widget.toJson widget := by
  have run : Json.Run Takes ⟨none, []⟩ ((idKey, .text widget.id) :: widget.body.members)
      ⟨some widget.id, widget.body.members.reverse ++ []⟩ :=
    .cons (.inr ⟨widget.id, rfl, rfl, rfl⟩)
      (run_takes (fun _ => key_ne_of_mem_members) ⟨some widget.id, []⟩)
  have gathers : Gathered.widget ⟨some widget.id, widget.body.members.reverse ++ []⟩ =
      .ok widget := by
    rw [Gathered.widget, List.append_nil, List.reverse_reverse,
      WidgetBody.ofMembers_members proper]
    rfl
  constructor
  · intro surplus
    simp only [format, ofJson, toJson, Json.record, Json.Members.toList_ofList,
      foldlM_take surplus run, Outcome.ok_bind, gathers]
  · intro allowance cursor after read
    rcases Json.wasRead_of_readValue read with
      ⟨rest, inner, behind, startsWith, deep, collected, closed⟩
    have takes (gathered : Gathered) (key : String) (value : Json) (next : Gathered)
        (cursor atValue after : Json.Cursor) (taken : Takes gathered (key, value) next)
        (passed : Json.colon cursor = .ok atValue)
        (read : Json.readValue allowance.steps inner atValue = .ok (value, after)) :
        readMember ⟨inner, allowance.steps⟩ gathered key cursor = .ok (next, after) := by
      rw [readMember]
      rcases taken with ⟨isOther, rfl⟩ | ⟨id, equal, isFirst, rfl⟩
      · rw [if_neg isOther]
        simp only [passed, read, Outcome.ok_bind, Outcome.pure_eq_ok]
      · cases equal
        have found := (finds_text id).read ⟨inner, allowance.steps⟩ atValue after read
        rw [if_pos rfl, isFirst]
        simp only [Option.isSome_none, Bool.false_eq_true, if_false, passed, found,
          Outcome.ok_bind, Outcome.pure_eq_ok]
    rcases Json.foldMembers_of_run takes collected with ⟨items, equal, folds⟩
    rw [Json.Members.toList_ofList, List.append_nil, List.reverse_inj] at equal
    subst equal
    simp only [format, Widget.read, startsWith, Json.inObject, deep, readMembers, folds run,
      Outcome.ok_bind, gathers, Outcome.pure_eq_ok, Json.settle, closed, Outcome.map_ok]

end Widget

end Bulletin
