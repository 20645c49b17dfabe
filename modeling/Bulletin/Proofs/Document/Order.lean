import Bulletin.Compiled
import Bulletin.Proofs.Document.Accepted
import Bulletin.Proofs.Document.RoundTrip
import Bulletin.Proofs.Json.Canonical
import Bulletin.Proofs.Widget.Order
/-!
# Documents in any order of members

Two texts that differ in the order of members alone are the same document, and the canonical text
of a document is read back as that document.
-/

namespace Bulletin

open Json (hasDistinctKeys_boolean hasDistinctKeys_list_map hasDistinctKeys_record)
open Json (hasDistinctKeys_text)
open Json.Field (commutes_defaulted)
open Json.Format (steady_flag steady_text)

/-! ## Parts of documents -/

theorem Theme.steady_shape : shape.IsSteady where
  fields := by simp [shape, steady_text.defaulted]
  commute := by simp [shape, commutes_defaulted]

theorem Header.steady_shape : shape.IsSteady where
  fields := by simp [shape, steady_text.defaulted, steady_flag.defaulted]
  commute := by simp [shape, commutes_defaulted]

theorem Footer.steady_shape : shape.IsSteady where
  fields := by simp [shape, steady_text.defaulted, steady_flag.defaulted]
  commute := by simp [shape, commutes_defaulted]

theorem Section.steady_shape : shape.IsSteady where
  fields := by
    simp [shape, steady_text.defaulted, Widget.steady_format.list.defaulted,
      steady_text.optional.defaulted, steady_flag.optional.defaulted]
  commute := by simp [shape, commutes_defaulted]

theorem Document.steady_shape : shape.IsSteady where
  fields := by
    simp [shape, Header.steady_shape.format.defaulted, Footer.steady_shape.format.defaulted,
      Theme.steady_shape.format.defaulted, Section.steady_shape.format.list.defaulted]
  commute := by simp [shape, commutes_defaulted]

/-! ## Distinct keys -/

theorem LinkButton.hasDistinctKeys_toJson (button : LinkButton) : button.toJson.HasDistinctKeys :=
  hasDistinctKeys_record (by simp) (by simp [hasDistinctKeys_text])

theorem ListEntry.hasDistinctKeys_toJson (entry : ListEntry) : entry.toJson.HasDistinctKeys :=
  hasDistinctKeys_record (by simp) (by simp [hasDistinctKeys_text])

theorem DetailRow.hasDistinctKeys_toJson (row : DetailRow) : row.toJson.HasDistinctKeys :=
  hasDistinctKeys_record (by simp) (by simp [hasDistinctKeys_text])

namespace WidgetBody

theorem nodup_fields (body : WidgetBody) : (body.fields.map Prod.fst).Nodup := by
  have key := @Json.key_of_mem_member?
  cases body
  all_goals
    simp only [fields, Paragraph.members, Heading.members, SingleButton.members,
      ButtonGroup.members, ItemList.members, Notice.members, Meeting.members, Video.members,
      MapEmbed.members, Image.members, List.cons_append, List.map_cons, List.map_append,
      List.map_nil, List.nodup_cons, List.nodup_append, Json.nodup_member?, List.mem_append,
      List.mem_map]
  all_goals grind

theorem hasDistinctKeys_fields (body : WidgetBody) :
    ∀ field ∈ body.fields, field.2.HasDistinctKeys := by
  have text? (key : String) (text? : Option String) :
      ∀ member ∈ Json.member? key (text?.map Json.text), member.2.HasDistinctKeys :=
    Json.hasDistinctKeys_member? key (by cases text? <;> simp [hasDistinctKeys_text])
  have flag? (key : String) (flag? : Option Bool) :
      ∀ member ∈ Json.member? key (flag?.map Json.boolean), member.2.HasDistinctKeys :=
    Json.hasDistinctKeys_member? key (by cases flag? <;> simp [hasDistinctKeys_boolean])
  have buttons := hasDistinctKeys_list_map LinkButton.hasDistinctKeys_toJson
  have entries := hasDistinctKeys_list_map ListEntry.hasDistinctKeys_toJson
  have rows := hasDistinctKeys_list_map DetailRow.hasDistinctKeys_toJson
  cases body
  all_goals
    simp only [fields, Paragraph.members, Heading.members, SingleButton.members,
      ButtonGroup.members, ItemList.members, Notice.members, Meeting.members, Video.members,
      MapEmbed.members, Image.members, List.cons_append, List.forall_mem_cons,
      List.forall_mem_append, List.not_mem_nil, false_implies, implies_true, hasDistinctKeys_text,
      buttons, entries, rows, true_and, and_true]
  case text body => exact ⟨flag? _ _, flag? _ _⟩
  case list body => exact flag? _ _
  case video body => exact text? _ _
  case map body => exact text? _ _
  case image body => exact ⟨text? _ _, text? _ _⟩

end WidgetBody

theorem Widget.hasDistinctKeys_toJson (widget : Widget) : widget.toJson.HasDistinctKeys := by
  have notField (name : String) (isOther : name ∉ WidgetBody.fieldNames) :
      name ∉ widget.body.fields.map Prod.fst := by
    intro isField
    rcases List.mem_map.mp isField with ⟨field, member, rfl⟩
    exact isOther (WidgetBody.mem_fieldNames member)
  rw [toJson, WidgetBody.members_eq]
  apply hasDistinctKeys_record
  · rw [List.map_cons, List.map_cons, List.nodup_cons, List.nodup_cons, List.mem_cons, not_or]
    have different : idKey ≠ WidgetBody.tagKey := by decide
    exact ⟨⟨different, notField idKey (by decide)⟩, notField WidgetBody.tagKey (by decide),
      widget.body.nodup_fields⟩
  · rw [List.forall_mem_cons, List.forall_mem_cons]
    exact ⟨hasDistinctKeys_text _, hasDistinctKeys_text _, widget.body.hasDistinctKeys_fields⟩

theorem Section.hasDistinctKeys_toJson (part : Section) : part.toJson.HasDistinctKeys := by
  have key := @Json.key_of_mem_member?
  have widgets := hasDistinctKeys_list_map Widget.hasDistinctKeys_toJson part.widgets
  apply hasDistinctKeys_record
  · simp only [List.cons_append, List.nil_append, List.map_cons, List.map_append,
      List.nodup_cons, List.nodup_append, Json.nodup_member?, List.mem_append, List.mem_map]
    grind
  · simp only [List.cons_append, List.nil_append, List.forall_mem_cons, List.forall_mem_append]
    refine ⟨hasDistinctKeys_text _, hasDistinctKeys_text _, widgets, ?_, ?_⟩
    · exact Json.hasDistinctKeys_member? _
        (by cases part.borderColor <;> simp [hasDistinctKeys_text])
    · exact Json.hasDistinctKeys_member? _
        (by cases part.collapsed <;> simp [hasDistinctKeys_boolean])

theorem Theme.hasDistinctKeys_toJson (theme : Theme) : theme.toJson.HasDistinctKeys :=
  hasDistinctKeys_record (by simp) (by simp [hasDistinctKeys_text])

theorem Header.hasDistinctKeys_toJson (header : Header) : header.toJson.HasDistinctKeys :=
  hasDistinctKeys_record (by simp) (by simp [hasDistinctKeys_text, hasDistinctKeys_boolean])

theorem Footer.hasDistinctKeys_toJson (footer : Footer) : footer.toJson.HasDistinctKeys :=
  hasDistinctKeys_record (by simp) (by simp [hasDistinctKeys_text, hasDistinctKeys_boolean])

namespace Document

theorem hasDistinctKeys_toJson (document : Document) : document.toJson.HasDistinctKeys := by
  have sections := hasDistinctKeys_list_map Section.hasDistinctKeys_toJson document.sections
  apply hasDistinctKeys_record (by simp)
  simp only [List.forall_mem_cons]
  exact ⟨document.header.hasDistinctKeys_toJson, document.footer.hasDistinctKeys_toJson,
    document.theme.hasDistinctKeys_toJson, sections,
    fun _ member => (List.not_mem_nil member).elim⟩

/-! ## Texts -/

theorem isProper_of_makes {document : Document} (loaded : format.Makes document) :
    document.IsProper :=
  yields_isProper.of_makes loaded

theorem parse_canonicalText {document : Document} (loaded : format.Makes document) :
    format.parse document.toJson.canonicalText = .ok document :=
  steady_shape.format.parse_canonicalText (finds_toJson (isProper_of_makes loaded))
    (document.isWritable_toJson.mono (by decide)) document.hasDistinctKeys_toJson

theorem canonicalText_inj {document other : Document} (loaded : format.Makes document)
    (otherLoaded : format.Makes other) :
    document.toJson.canonicalText = other.toJson.canonicalText ↔ document = other := by
  constructor
  · intro same
    have parsed := parse_canonicalText loaded
    rw [same, parse_canonicalText otherLoaded] at parsed
    cases parsed
    rfl
  · rintro rfl
    rfl

theorem parse_reordered {outline other : Json.Outline} (reorders : outline.Reorders other)
    {text otherText : String} (isOutline : outline.IsOutlineOf text)
    (isOther : other.IsOutlineOf otherText) {document : Document}
    (parsed : format.parse text = .ok document) : format.parse otherText = .ok document := by
  rw [← Outcome.toOption_eq_some] at parsed ⊢
  exact (steady_shape.format.parse reorders isOutline isOther).symm.trans parsed

/-- What stands in a document does not depend on the order of members in its text, every text of a
document being the text of an outline. Its canonical text tells it from every other document. -/
theorem order_irrelevant :
    (∀ (outline other : Json.Outline) (text otherText : String) (document : Document),
      outline.Reorders other → outline.IsOutlineOf text → other.IsOutlineOf otherText →
        format.parse text = .ok document →
          ∃ found, format.parse otherText = .ok found ∧ found = document ∧
            found.fingerprint = document.fingerprint ∧ found.compile = document.compile ∧
            found.check = document.check) ∧
    (∀ text document, format.parse text = .ok document →
      format.Makes document ∧ ∃ outline : Json.Outline, outline.IsOutlineOf text) ∧
    (∀ document, format.Makes document →
      format.parse document.toJson.canonicalText = .ok document) ∧
    ∀ document other, format.Makes document → format.Makes other →
      (document.toJson.canonicalText = other.toJson.canonicalText ↔ document = other) ∧
        (document.fingerprint = other.fingerprint ↔ document = other ∨
          document.toJson.canonicalText ≠ other.toJson.canonicalText ∧
            Digest.ofText document.toJson.canonicalText =
              Digest.ofText other.toJson.canonicalText) := by
  refine ⟨?_, ?_, fun _ => parse_canonicalText, ?_⟩
  · intro outline other text otherText document reorders isOutline isOther parsed
    exact ⟨document, parse_reordered reorders isOutline isOther parsed, rfl, rfl, rfl, rfl⟩
  · intro text document parsed
    exact ⟨Json.Format.makes_of_parse parsed, readsValues.exists_outline parsed⟩
  · intro document other loaded otherLoaded
    have inj := canonicalText_inj loaded otherLoaded
    refine ⟨inj, ?_, ?_⟩
    · intro sameFingerprint
      by_cases same : document.toJson.canonicalText = other.toJson.canonicalText
      · exact .inl (inj.mp same)
      · exact .inr ⟨same, sameFingerprint⟩
    · rintro (rfl | ⟨-, collision⟩)
      · rfl
      · exact collision

/-- A document of one widget. The widget has a member that is not known, and so has the
document. -/
def tagFirst : Json :=
  .record
    [("sections", .list [.record [("widgets", .list [.record
      [("type", .text "text"), ("id", .text "a"), ("content", .text "Hi"), ("extra", .null)]])]]),
      ("extra", .null)]

/-- The same document, with the tag and the id behind all other members of the widget. -/
def tagLast : Json :=
  .record
    [("extra", .null),
      ("sections", .list [.record [("widgets", .list [.record
        [("content", .text "Hi"), ("extra", .null), ("type", .text "text"), ("id", .text "a")]])]])]

theorem tagFirst_reorders : tagFirst.Reorders tagLast := by
  have null : Json.ReordersMember ("extra", .null) ("extra", .null) := .value .null
  have text (key value : String) : Json.ReordersMember (key, .text value) (key, .text value) :=
    .value (.text value)
  have inWidget := Json.Reorders.object
    (.cons (text "type" "text") (.cons (text "id" "a")
      (.cons (text "content" "Hi") (.cons null .nil))))
    (@List.perm_append_comm _ [_, _] [_, _])
  have inSection : Json.ReordersMember ("widgets", .list [_]) ("widgets", .list [_]) :=
    .value (.array (.cons inWidget .nil))
  have inDocument : Json.ReordersMember ("sections", .list [_]) ("sections", .list [_]) :=
    .value (.array (.cons (.object (.cons inSection .nil) (.refl _)) .nil))
  exact .object (.cons inDocument (.cons null .nil)) (.swap _ _ _)

def greeting : Document :=
  ⟨⟨"", "", false⟩, ⟨"", false⟩, .default,
    [⟨"", "", [⟨"a", .text ⟨"Hi", none, none⟩⟩], none, none⟩]⟩

theorem order_irrelevant_tag_last :
    format.parse tagFirst.compact = .ok greeting ∧
    (∃ found, format.parse tagLast.compact = .ok found ∧ found = greeting ∧
      found.fingerprint = greeting.fingerprint ∧ found.compile = greeting.compile ∧
      found.check = greeting.check) ∧
    format.parse greeting.toJson.canonicalText = .ok greeting ∧
    greeting.toJson.canonicalText ≠ shape.blank.toJson.canonicalText := by
  have parsed : format.parse tagFirst.compact = .ok greeting :=
    Outcome.toOption_eq_some.mp (by decide +kernel)
  have blank : format.parse "\x7b\x7d" = .ok shape.blank :=
    Outcome.toOption_eq_some.mp (by decide +kernel)
  rcases Json.exists_outlines tagFirst tagLast tagFirst_reorders with
    ⟨outline, other, ofFirst, ofLast, reorders⟩
  have isExact : tagFirst.IsExact ∧ tagLast.IsExact := by
    simp [tagFirst, tagLast, Json.record, Json.list, Json.IsExact, Json.Items.ofList,
      Json.Members.ofList, Json.Items.IsExact, Json.Members.IsExact]
  have isOutline := ofFirst.isOutlineOf_compact isExact.1
  have isOther := ofLast.isOutlineOf_compact isExact.2
  rcases order_irrelevant with ⟨reordered, makes, canonical, separates⟩
  have made := (makes _ _ parsed).1
  refine ⟨parsed, reordered _ _ _ _ _ reorders isOutline isOther parsed, canonical _ made, ?_⟩
  · have same := (separates greeting shape.blank made (makes _ _ blank).1).1
    exact same.not.mpr (by decide +kernel)

end Document

end Bulletin
