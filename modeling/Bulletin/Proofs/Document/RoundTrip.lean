import Bulletin.Document.Format
import Bulletin.Proofs.Widget.RoundTrip
/-!
# Documents written and found again

A document whose variants are proper is found in what is written of it, and is read back from it
in either layout.
-/

namespace Bulletin

open Json (Format RecordShape IsWritable)
open Json (isWritable_text isWritable_boolean isWritable_list isWritable_record)
open Json.Format (finds_text finds_flag finds_list)
open Json.RecordShape (Fills finds_of_fills)

/-! ## Parts of documents -/

theorem Theme.finds_toJson (theme : Theme) : shape.format.Finds theme.toJson theme :=
  finds_of_fills (by decide) <|
    .defaulted (finds_text theme.primaryColor) <| .defaulted (finds_text theme.secondaryColor) <|
      .defaulted (finds_text theme.accentColor) <|
        .defaulted (finds_text theme.backgroundColor) <|
          .defaulted (finds_text theme.textColor) <| .defaulted (finds_text theme.fontFamily) <|
            .defaulted (finds_text theme.borderRadius) .nil

theorem Header.finds_toJson (header : Header) : shape.format.Finds header.toJson header :=
  finds_of_fills (by decide) <|
    .defaulted (finds_text header.title) <| .defaulted (finds_text header.subtitle) <|
      .defaulted (finds_flag header.showGradient) .nil

theorem Footer.finds_toJson (footer : Footer) : shape.format.Finds footer.toJson footer :=
  finds_of_fills (by decide) <|
    .defaulted (finds_text footer.content) <|
      .defaulted (finds_flag footer.showGradientBorder) .nil

theorem Section.finds_toJson {part : Section} (proper : part.IsProper) :
    shape.format.Finds part.toJson part := by
  have widgets := finds_list fun widget member => Widget.finds_toJson (proper widget member)
  have fills : Fills shape.fields shape.blank
      (("id", .text part.id) :: ("title", .text part.title) ::
        ("widgets", .list (part.widgets.map Widget.toJson)) ::
          (Json.member? "borderColor" (part.borderColor.map .text) ++
            (Json.member? "collapsed" (part.collapsed.map .boolean) ++ []))) part :=
    .defaulted (finds_text part.id) <| .defaulted (finds_text part.title) <|
      .defaulted widgets <| .member? finds_text (by simp) rfl <|
        .member? finds_flag (by simp) rfl .nil
  rw [List.append_nil] at fills
  exact finds_of_fills (by decide) fills

theorem Document.finds_toJson {document : Document} (proper : document.IsProper) :
    format.Finds document.toJson document := by
  have sections := finds_list fun part member => Section.finds_toJson (proper part member)
  exact finds_of_fills (by decide) <|
    .defaulted document.header.finds_toJson <| .defaulted document.footer.finds_toJson <|
      .defaulted document.theme.finds_toJson <| .defaulted sections .nil

/-! ## Nesting -/

theorem LinkButton.isWritable_toJson (button : LinkButton) : button.toJson.IsWritable 1 :=
  isWritable_record (by simp [isWritable_text])

theorem ListEntry.isWritable_toJson (entry : ListEntry) : entry.toJson.IsWritable 1 :=
  isWritable_record (by simp [isWritable_text])

theorem DetailRow.isWritable_toJson (row : DetailRow) : row.toJson.IsWritable 1 :=
  isWritable_record (by simp [isWritable_text])

theorem isWritable_list_map {brackets : Nat} {toJson : α → Json}
    (writable : ∀ item, (toJson item).IsWritable brackets) (items : List α) :
    (Json.list (items.map toJson)).IsWritable (brackets + 1) :=
  isWritable_list (List.forall_mem_map.mpr fun item _ => writable item)

theorem WidgetBody.isWritable_fields (body : WidgetBody) :
    ∀ field ∈ body.fields, field.2.IsWritable 2 := by
  have text? (key : String) (text? : Option String) :
      ∀ member ∈ Json.member? key (text?.map Json.text), member.2.IsWritable 2 :=
    Json.isWritable_member? key (by cases text? <;> simp [isWritable_text])
  have flag? (key : String) (flag? : Option Bool) :
      ∀ member ∈ Json.member? key (flag?.map Json.boolean), member.2.IsWritable 2 :=
    Json.isWritable_member? key (by cases flag? <;> simp [isWritable_boolean])
  have buttons := isWritable_list_map LinkButton.isWritable_toJson
  have entries := isWritable_list_map ListEntry.isWritable_toJson
  have rows := isWritable_list_map DetailRow.isWritable_toJson
  cases body
  all_goals
    simp only [fields, Paragraph.members, Heading.members, SingleButton.members,
      ButtonGroup.members, ItemList.members, Notice.members, Meeting.members, Video.members,
      MapEmbed.members, Image.members, List.cons_append, List.forall_mem_cons,
      List.forall_mem_append, List.not_mem_nil, false_implies, implies_true, isWritable_text,
      buttons, entries, rows, true_and, and_true]
  case text body => exact ⟨flag? _ _, flag? _ _⟩
  case list body => exact flag? _ _
  case video body => exact text? _ _
  case map body => exact text? _ _
  case image body => exact ⟨text? _ _, text? _ _⟩

theorem Widget.isWritable_toJson (widget : Widget) : widget.toJson.IsWritable 3 := by
  apply isWritable_record
  rw [WidgetBody.members_eq, List.forall_mem_cons, List.forall_mem_cons]
  exact ⟨isWritable_text 2 _, isWritable_text 2 _, widget.body.isWritable_fields⟩

theorem Section.isWritable_toJson (part : Section) : part.toJson.IsWritable 5 := by
  have widgets := isWritable_list_map Widget.isWritable_toJson part.widgets
  apply isWritable_record
  simp only [List.cons_append, List.nil_append, List.forall_mem_cons, List.forall_mem_append]
  refine ⟨isWritable_text 4 _, isWritable_text 4 _, widgets, ?_, ?_⟩
  · exact Json.isWritable_member? _ (by cases part.borderColor <;> simp [isWritable_text])
  · exact Json.isWritable_member? _ (by cases part.collapsed <;> simp [isWritable_boolean])

theorem Theme.isWritable_toJson (theme : Theme) : theme.toJson.IsWritable 1 :=
  isWritable_record (by simp [isWritable_text])

theorem Header.isWritable_toJson (header : Header) : header.toJson.IsWritable 1 :=
  isWritable_record (by simp [isWritable_text, isWritable_boolean])

theorem Footer.isWritable_toJson (footer : Footer) : footer.toJson.IsWritable 1 :=
  isWritable_record (by simp [isWritable_text, isWritable_boolean])

namespace Document

theorem isWritable_toJson (document : Document) : document.toJson.IsWritable 7 := by
  have header := document.header.isWritable_toJson.mono (by decide : 1 ≤ 6)
  have footer := document.footer.isWritable_toJson.mono (by decide : 1 ≤ 6)
  have theme := document.theme.isWritable_toJson.mono (by decide : 1 ≤ 6)
  have sections := isWritable_list_map Section.isWritable_toJson document.sections
  apply isWritable_record
  simp only [List.forall_mem_cons]
  exact ⟨header, footer, theme, sections, fun _ member => (List.not_mem_nil member).elim⟩

/-! ## Texts -/

variable {document : Document}

theorem parse_pretty (proper : document.IsProper) :
    format.parse document.toJson.pretty = .ok document :=
  (finds_toJson proper).parse_pretty (document.isWritable_toJson.mono (by decide))

theorem parse_compact (proper : document.IsProper) :
    format.parse document.toJson.compact = .ok document :=
  (finds_toJson proper).parse_compact (document.isWritable_toJson.mono (by decide))

end Document

end Bulletin
