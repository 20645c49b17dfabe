import Bulletin.Document.Basic
import Bulletin.Page.VideoLink
/-!
# Layouts

The layout of a document is everything that a page takes from it besides user text: its theme, its
flags, the kinds of its widgets with their variants as they resolve, and how many items they have.
-/

namespace Bulletin

inductive WidgetLayout where
  | text (bold italic : Bool)
  | heading (tag : HeadingTag)
  | button (tone : ButtonTone)
  | buttonGroup (tones : List ButtonTone)
  | list (ordered : Bool) (items : Nat)
  | divider
  | notice (tone : NoticeTone)
  | meeting (details : Nat) (tones : List ButtonTone)
  | video (captioned embedded : Bool)
  | map (captioned : Bool)
  | image (width : String)
  | unknown
deriving DecidableEq, Repr

def LinkButton.tone (button : LinkButton) : ButtonTone :=
  button.variant.tone

def WidgetBody.layout : WidgetBody → WidgetLayout
  | .text body => .text body.bold body.italic
  | .heading body => .heading body.level.tag
  | .button body => .button body.variant.tone
  | .buttonGroup body => .buttonGroup (body.buttons.map LinkButton.tone)
  | .list body => .list body.ordered body.items.length
  | .divider => .divider
  | .notice body => .notice body.variant.tone
  | .meeting body => .meeting body.details.length (body.buttons.map LinkButton.tone)
  | .video body => .video body.caption?.isSome (VideoLink.id? body.url).isSome
  | .map body => .map body.caption?.isSome
  | .image body => .image body.resolvedWidth
  | .unknown => .unknown

def Widget.layout (widget : Widget) : WidgetLayout :=
  widget.body.layout

structure SectionLayout where
  borderColor : String
  widgets : List WidgetLayout
deriving DecidableEq, Repr

def Section.layout (theme : Theme) (part : Section) : SectionLayout where
  borderColor := part.resolvedBorderColor theme
  widgets := part.widgets.map Widget.layout

structure DocumentLayout where
  theme : Theme
  showGradient : Bool
  showGradientBorder : Bool
  sections : List SectionLayout
deriving DecidableEq, Repr

def Document.layout (document : Document) : DocumentLayout where
  theme := document.theme
  showGradient := document.header.showGradient
  showGradientBorder := document.footer.showGradientBorder
  sections := document.sections.map (Section.layout document.theme)

/-! ## A document of many parts -/

/-- A widget of every kind, each of which says nothing but `text`. -/
def WidgetBody.specimens (text : String) : List WidgetBody :=
  [.text ⟨text, some true, some true⟩, .heading ⟨text, .other text⟩,
    .button ⟨text, text, .other text⟩, .buttonGroup ⟨[⟨text, text, text, .outline⟩]⟩,
    .list ⟨[⟨text, text⟩, ⟨text, text⟩], some true⟩, .divider, .notice ⟨text, .other text⟩,
    .meeting ⟨text, [⟨text, text, text⟩], [⟨text, text, text, .accent⟩]⟩,
    .video ⟨text, some text⟩, .map ⟨text, some text⟩, .image ⟨text, some text, some text⟩,
    .unknown]

/-- A document that says nothing but `text`, in every place that a document has. -/
def Document.specimen (text : String) : Document where
  header := ⟨text, text, true⟩
  footer := ⟨text, true⟩
  theme := .default
  sections :=
    [⟨text, text, (WidgetBody.specimens text).map fun body => ⟨text, body⟩, none, some false⟩]

end Bulletin
