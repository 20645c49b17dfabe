import Bulletin.Proofs.Document.Identities
import Bulletin.Proofs.Document.Layout
import Bulletin.Proofs.Document.Wording
import Mathlib.Data.List.Forall2
/-!
# Retouched documents

Much of what a document holds is for editors: ids, folded sections, and the difference between
values that resolve to the same. A document is retouched where it is changed in such ways only, and
neither its layout nor its wording tells.
-/

namespace Bulletin

/-! ## Retouching -/

structure LinkButton.Retouched (button other : LinkButton) : Prop where
  text : other.text = button.text
  url : other.url = button.url
  tone : other.variant.tone = button.variant.tone

structure ListEntry.Retouched (entry other : ListEntry) : Prop where
  text : other.text = entry.text

structure DetailRow.Retouched (row other : DetailRow) : Prop where
  key : other.key = row.key
  value : other.value = row.value

/-- A body of the same kind, in which variants, flags, captions and widths may be others that
resolve to the same, nested items may have other ids, and a video another link with the same id. -/
inductive WidgetBody.Retouched : WidgetBody → WidgetBody → Prop where
  | text {body other : Paragraph} (content : other.content = body.content)
      (bold : other.bold = body.bold) (italic : other.italic = body.italic) :
      Retouched (.text body) (.text other)
  | heading {body other : Heading} (text : other.text = body.text)
      (tag : other.level.tag = body.level.tag) : Retouched (.heading body) (.heading other)
  | button {body other : SingleButton} (text : other.text = body.text)
      (url : other.url = body.url) (tone : other.variant.tone = body.variant.tone) :
      Retouched (.button body) (.button other)
  | buttonGroup {body other : ButtonGroup}
      (buttons : List.Forall₂ LinkButton.Retouched body.buttons other.buttons) :
      Retouched (.buttonGroup body) (.buttonGroup other)
  | list {body other : ItemList}
      (items : List.Forall₂ ListEntry.Retouched body.items other.items)
      (ordered : other.ordered = body.ordered) : Retouched (.list body) (.list other)
  | divider : Retouched .divider .divider
  | notice {body other : Notice} (content : other.content = body.content)
      (tone : other.variant.tone = body.variant.tone) : Retouched (.notice body) (.notice other)
  | meeting {body other : Meeting} (title : other.title = body.title)
      (details : List.Forall₂ DetailRow.Retouched body.details other.details)
      (buttons : List.Forall₂ LinkButton.Retouched body.buttons other.buttons) :
      Retouched (.meeting body) (.meeting other)
  | video {body other : Video} (caption : other.caption? = body.caption?)
      (url : other.url = body.url ∨
        ∃ id, VideoLink.id? body.url = some id ∧ VideoLink.id? other.url = some id) :
      Retouched (.video body) (.video other)
  | map {body other : MapEmbed} (caption : other.caption? = body.caption?)
      (url : other.embedUrl = body.embedUrl) : Retouched (.map body) (.map other)
  | image {body other : Image} (url : other.url = body.url)
      (alt : other.altText = body.altText) (width : other.resolvedWidth = body.resolvedWidth) :
      Retouched (.image body) (.image other)
  | unknown : Retouched .unknown .unknown

def Widget.Retouched (widget other : Widget) : Prop :=
  widget.body.Retouched other.body

/-- A section that may have another id, be folded or not, and have an empty border color in the
place of none. -/
structure Section.Retouched (part other : Section) : Prop where
  title : other.title = part.title
  borderColor : shown? other.borderColor = shown? part.borderColor
  widgets : List.Forall₂ Widget.Retouched part.widgets other.widgets

structure Document.Retouched (document other : Document) : Prop where
  header : other.header = document.header
  footer : other.footer = document.footer
  theme : other.theme = document.theme
  sections : List.Forall₂ Section.Retouched document.sections other.sections

/-! ## New ids -/

def Widget.Rekeyed (widget other : Widget) : Prop :=
  other = widget ∨ ∃ supply, other = (widget.copy.run supply).1

def Section.Rekeyed (part other : Section) : Prop :=
  ∃ widgets, List.Forall₂ Widget.Rekeyed part.widgets widgets ∧ other = { part with widgets }

def Document.Rekeyed (document other : Document) : Prop :=
  ∃ sections, List.Forall₂ Section.Rekeyed document.sections sections ∧
    other = { document with sections }

/-! ## What does not tell -/

theorem LinkButton.Retouched.wording {button other : LinkButton}
    (retouched : button.Retouched other) : other.wording = button.wording := by
  rw [LinkButton.wording, retouched.text, retouched.url]
  rfl

theorem DetailRow.Retouched.wording {row other : DetailRow} (retouched : row.Retouched other) :
    other.wording = row.wording := by
  rw [DetailRow.wording, retouched.key, retouched.value]
  rfl

namespace WidgetBody

theorem Retouched.layout {body other : WidgetBody} (retouched : body.Retouched other) :
    other.layout = body.layout := by
  have tones {buttons others : List LinkButton}
      (retouched : List.Forall₂ LinkButton.Retouched buttons others) :
      others.map LinkButton.tone = buttons.map LinkButton.tone :=
    map_eq_of_forall₂ LinkButton.tone (fun _ _ => LinkButton.Retouched.tone) retouched
  cases retouched with
  | text content bold italic => simp only [WidgetBody.layout, bold, italic]
  | heading text tag => simp only [WidgetBody.layout, tag]
  | button text url tone => simp only [WidgetBody.layout, tone]
  | buttonGroup buttons => simp only [WidgetBody.layout, tones buttons]
  | list items ordered => simp only [WidgetBody.layout, ordered, items.length_eq]
  | divider => rfl
  | notice content tone => simp only [WidgetBody.layout, tone]
  | meeting title details buttons =>
      simp only [WidgetBody.layout, details.length_eq, tones buttons]
  | video caption url =>
      rcases url with same | ⟨id, found, otherFound⟩
      · simp only [WidgetBody.layout, caption, same]
      · simp only [WidgetBody.layout, caption, found, otherFound]
  | map caption url => simp only [WidgetBody.layout, caption]
  | image url alt width => simp only [WidgetBody.layout, width]
  | unknown => rfl

theorem Retouched.wording {body other : WidgetBody} (retouched : body.Retouched other) :
    other.wording = body.wording := by
  have links {buttons others : List LinkButton}
      (retouched : List.Forall₂ LinkButton.Retouched buttons others) :
      others.map LinkButton.wording = buttons.map LinkButton.wording :=
    map_eq_of_forall₂ LinkButton.wording (fun _ _ => LinkButton.Retouched.wording) retouched
  cases retouched with
  | text content bold italic => simp only [WidgetBody.wording, content]
  | heading text tag => simp only [WidgetBody.wording, text]
  | button text url tone => simp only [WidgetBody.wording, text, url]
  | buttonGroup buttons => simp only [WidgetBody.wording, links buttons]
  | list items ordered =>
      have texts := map_eq_of_forall₂ ListEntry.text (fun _ _ => ListEntry.Retouched.text) items
      simp only [WidgetBody.wording, texts]
  | divider => rfl
  | notice content tone => simp only [WidgetBody.wording, content]
  | meeting title details buttons =>
      have rows :=
        map_eq_of_forall₂ DetailRow.wording (fun _ _ => DetailRow.Retouched.wording) details
      simp only [WidgetBody.wording, title, rows, links buttons]
  | video caption url =>
      rcases url with same | ⟨id, found, otherFound⟩
      · simp only [WidgetBody.wording, caption, same]
      · simp only [WidgetBody.wording, caption, found, otherFound, Option.getD_some]
  | map caption url => simp only [WidgetBody.wording, caption, url]
  | image url alt width => simp only [WidgetBody.wording, url, alt]
  | unknown => rfl

end WidgetBody

theorem Section.Retouched.layout {part other : Section} (retouched : part.Retouched other)
    (theme : Theme) : other.layout theme = part.layout theme := by
  have widgets := map_eq_of_forall₂ Widget.layout
    (fun _ _ retouched => WidgetBody.Retouched.layout retouched) retouched.widgets
  rw [Section.layout, resolvedBorderColor, retouched.borderColor, widgets]
  rfl

theorem Section.Retouched.wording {part other : Section} (retouched : part.Retouched other) :
    other.wording = part.wording := by
  have widgets := map_eq_of_forall₂ Widget.wording
    (fun _ _ retouched => WidgetBody.Retouched.wording retouched) retouched.widgets
  rw [Section.wording, retouched.title, widgets]
  rfl

variable {document other : Document}

namespace Document

theorem Retouched.layout (retouched : document.Retouched other) :
    other.layout = document.layout := by
  have sections := map_eq_of_forall₂ (Section.layout document.theme)
    (fun _ _ retouched => Section.Retouched.layout retouched document.theme) retouched.sections
  rw [Document.layout, retouched.theme, retouched.header, retouched.footer, sections]
  rfl

theorem Retouched.wording (retouched : document.Retouched other) :
    other.wording = document.wording := by
  have sections := map_eq_of_forall₂ Section.wording
    (fun _ _ retouched => Section.Retouched.wording retouched) retouched.sections
  rw [Document.wording, retouched.header, retouched.footer, sections]
  rfl

end Document

/-! ## Renewed ids -/

namespace WidgetBody

theorem Retouched.refl (body : WidgetBody) : body.Retouched body := by
  have links (buttons : List LinkButton) : List.Forall₂ LinkButton.Retouched buttons buttons :=
    List.forall₂_same.mpr fun _ _ => ⟨rfl, rfl, rfl⟩
  cases body with
  | text body => exact .text rfl rfl rfl
  | heading body => exact .heading rfl rfl
  | button body => exact .button rfl rfl rfl
  | buttonGroup body => exact .buttonGroup (links body.buttons)
  | list body => exact .list (List.forall₂_same.mpr fun _ _ => ⟨rfl⟩) rfl
  | divider => exact .divider
  | notice body => exact .notice rfl rfl
  | meeting body =>
      exact .meeting rfl (List.forall₂_same.mpr fun _ _ => ⟨rfl, rfl⟩) (links body.buttons)
  | video body => exact .video rfl (.inl rfl)
  | map body => exact .map rfl rfl
  | image body => exact .image rfl rfl rfl
  | unknown => exact .unknown

theorem retouched_rekey (body : WidgetBody) (supply : IdSupply) :
    body.Retouched (body.rekey.run supply).1 := by
  have renewed (id : String) (button : LinkButton) : button.Retouched { button with id } :=
    ⟨rfl, rfl, rfl⟩
  have links := forall₂_rekeyAll renewed
  cases body with
  | buttonGroup body => exact .buttonGroup (links body.buttons supply)
  | list body => exact .list (forall₂_rekeyAll (fun _ _ => ⟨rfl⟩) body.items supply) rfl
  | meeting body =>
      exact .meeting rfl (forall₂_rekeyAll (fun _ _ => ⟨rfl, rfl⟩) body.details _)
        (links body.buttons supply)
  | _ => exact .refl _

end WidgetBody

theorem Widget.Rekeyed.retouched {widget other : Widget} (rekeyed : widget.Rekeyed other) :
    widget.Retouched other := by
  rcases rekeyed with rfl | ⟨supply, rfl⟩
  · exact .refl _
  · exact widget.body.retouched_rekey supply

theorem Section.Rekeyed.retouched {part other : Section} (rekeyed : part.Rekeyed other) :
    part.Retouched other := by
  rcases rekeyed with ⟨widgets, rekeyed, rfl⟩
  exact ⟨rfl, rfl, rekeyed.imp fun _ _ => Widget.Rekeyed.retouched⟩

theorem Document.Rekeyed.retouched (rekeyed : document.Rekeyed other) :
    document.Retouched other := by
  rcases rekeyed with ⟨sections, rekeyed, rfl⟩
  exact ⟨rfl, rfl, rfl, rekeyed.imp fun _ _ => Section.Rekeyed.retouched⟩

end Bulletin
