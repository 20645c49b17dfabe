import Bulletin.Document.Basic
import Bulletin.Page.VideoLink
/-!
# Wordings

The wording of a document is the user text that its page shows, each piece in its place: together
with the layout, everything that a page takes from a document.
-/

namespace Bulletin

structure ButtonWording where
  text : String
  url : String
deriving DecidableEq, Repr

structure DetailWording where
  key : String
  value : String
deriving DecidableEq, Repr

inductive WidgetWording where
  | text (content : String)
  | heading (text : String)
  | button (button : ButtonWording)
  | buttonGroup (buttons : List ButtonWording)
  | list (items : List String)
  | divider
  | notice (content : String)
  | meeting (title : String) (details : List DetailWording) (buttons : List ButtonWording)
  /-- What the link of a video leads to: the id of the video, or the whole link without one. -/
  | video (caption : Option String) (target : String)
  | map (caption : Option String) (url : String)
  | image (url alt : String)
  | unknown
deriving DecidableEq, Repr

def LinkButton.wording (button : LinkButton) : ButtonWording :=
  ⟨button.text, button.url⟩

def DetailRow.wording (row : DetailRow) : DetailWording :=
  ⟨row.key, row.value⟩

def WidgetBody.wording : WidgetBody → WidgetWording
  | .text body => .text body.content
  | .heading body => .heading body.text
  | .button body => .button ⟨body.text, body.url⟩
  | .buttonGroup body => .buttonGroup (body.buttons.map LinkButton.wording)
  | .list body => .list (body.items.map ListEntry.text)
  | .divider => .divider
  | .notice body => .notice body.content
  | .meeting body =>
      .meeting body.title (body.details.map DetailRow.wording)
        (body.buttons.map LinkButton.wording)
  | .video body => .video body.caption? ((VideoLink.id? body.url).getD body.url)
  | .map body => .map body.caption? body.embedUrl
  | .image body => .image body.url body.altText
  | .unknown => .unknown

def Widget.wording (widget : Widget) : WidgetWording :=
  widget.body.wording

structure SectionWording where
  title : String
  widgets : List WidgetWording
deriving DecidableEq, Repr

def Section.wording (part : Section) : SectionWording where
  title := part.title
  widgets := part.widgets.map Widget.wording

structure DocumentWording where
  title : String
  subtitle : String
  footer : String
  sections : List SectionWording
deriving DecidableEq, Repr

def Document.wording (document : Document) : DocumentWording where
  title := document.header.title
  subtitle := document.header.subtitle
  footer := document.footer.content
  sections := document.sections.map Section.wording

end Bulletin
