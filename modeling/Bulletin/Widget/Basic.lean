import Bulletin.Text.Basic
import Bulletin.Widget.Variant
/-!
# Widgets

A widget is an identified building block of a section: a paragraph, a heading, buttons, a list, a
notice, a meeting, a video, a map, an image or a rule. A block of a kind that is not known is kept
as such and shows nothing.
-/

namespace Bulletin

/-! ## Nested items -/

structure LinkButton where
  id : String
  text : String
  url : String
  variant : ButtonVariant
deriving DecidableEq, Repr

structure ListEntry where
  id : String
  text : String
deriving DecidableEq, Repr

structure DetailRow where
  id : String
  key : String
  value : String
deriving DecidableEq, Repr

/-! ## Bodies -/

structure Paragraph where
  content : String
  isBold : Option Bool
  isItalic : Option Bool
deriving DecidableEq, Repr

namespace Paragraph

def bold (paragraph : Paragraph) : Bool :=
  paragraph.isBold.getD false

def italic (paragraph : Paragraph) : Bool :=
  paragraph.isItalic.getD false

end Paragraph

structure Heading where
  text : String
  level : HeadingLevel
deriving DecidableEq, Repr

structure SingleButton where
  text : String
  url : String
  variant : ButtonVariant
deriving DecidableEq, Repr

structure ButtonGroup where
  buttons : List LinkButton
deriving DecidableEq, Repr

structure ItemList where
  items : List ListEntry
  isOrdered : Option Bool
deriving DecidableEq, Repr

def ItemList.ordered (list : ItemList) : Bool :=
  list.isOrdered.getD false

structure Notice where
  content : String
  variant : NoticeVariant
deriving DecidableEq, Repr

structure Meeting where
  title : String
  details : List DetailRow
  buttons : List LinkButton
deriving DecidableEq, Repr

/-- A text that is there and not empty. -/
def shown? (text? : Option String) : Option String :=
  text?.filter fun text => text ≠ ""

structure Video where
  url : String
  title : Option String
deriving DecidableEq, Repr

def Video.caption? (video : Video) : Option String :=
  shown? video.title

structure MapEmbed where
  embedUrl : String
  title : Option String
deriving DecidableEq, Repr

def MapEmbed.caption? (map : MapEmbed) : Option String :=
  shown? map.title

structure Image where
  url : String
  alt : Option String
  width : Option String
deriving DecidableEq, Repr

namespace Image

def fullWidth : String := "100%"

def widths : List String := [fullWidth, "75%", "50%", "25%"]

def requestedWidth? (image : Image) : Option String :=
  shown? image.width

/-- Any width that is not supported is full width. -/
def resolvedWidth (image : Image) : String :=
  match image.requestedWidth? with
  | some width => if widths.contains (Text.trim width) then Text.trim width else fullWidth
  | none => fullWidth

def altText (image : Image) : String :=
  image.alt.getD ""

end Image

inductive WidgetBody where
  | text (paragraph : Paragraph)
  | heading (heading : Heading)
  | button (button : SingleButton)
  | buttonGroup (group : ButtonGroup)
  | list (list : ItemList)
  | divider
  | notice (notice : Notice)
  | meeting (meeting : Meeting)
  | video (video : Video)
  | map (map : MapEmbed)
  | image (image : Image)
  | unknown
deriving DecidableEq, Repr

structure Widget where
  id : String
  body : WidgetBody
deriving DecidableEq, Repr

/-! ## Kinds -/

inductive WidgetKind where
  | meeting
  | text
  | heading
  | button
  | buttonGroup
  | list
  | notice
  | divider
  | video
  | map
  | image
deriving DecidableEq, Repr

namespace WidgetKind

/-- Every kind, in the order of an editor's menu. -/
def all : List WidgetKind :=
  [.meeting, .text, .heading, .button, .buttonGroup, .list, .notice, .divider, .video, .map,
    .image]

def tag : WidgetKind → String
  | .meeting => "meeting"
  | .text => "text"
  | .heading => "heading"
  | .button => "button"
  | .buttonGroup => "buttonGroup"
  | .list => "list"
  | .notice => "notice"
  | .divider => "divider"
  | .video => "video"
  | .map => "map"
  | .image => "image"

def label : WidgetKind → String
  | .meeting => "Meeting"
  | .text => "Text"
  | .heading => "Heading"
  | .button => "Button"
  | .buttonGroup => "Buttons"
  | .list => "List"
  | .notice => "Notice"
  | .divider => "Divider"
  | .video => "Video"
  | .map => "Map"
  | .image => "Image"

def ofTag? (tag : String) : Option WidgetKind :=
  all.find? fun kind => kind.tag = tag

example : all.Nodup := by decide

@[simp] theorem ofTag?_tag (kind : WidgetKind) : ofTag? kind.tag = some kind := by
  cases kind <;> decide +kernel

end WidgetKind

namespace WidgetBody

def kind? : WidgetBody → Option WidgetKind
  | .text _ => some .text
  | .heading _ => some .heading
  | .button _ => some .button
  | .buttonGroup _ => some .buttonGroup
  | .list _ => some .list
  | .divider => some .divider
  | .notice _ => some .notice
  | .meeting _ => some .meeting
  | .video _ => some .video
  | .map _ => some .map
  | .image _ => some .image
  | .unknown => none

def new : WidgetKind → WidgetBody
  | .text => .text ⟨"", none, none⟩
  | .heading => .heading ⟨"", .h3⟩
  | .button => .button ⟨"Button", "", .primary⟩
  | .buttonGroup => .buttonGroup ⟨[]⟩
  | .list => .list ⟨[], some false⟩
  | .divider => .divider
  | .notice => .notice ⟨"", .info⟩
  | .meeting => .meeting ⟨"", [], []⟩
  | .video => .video ⟨"", none⟩
  | .map => .map ⟨"", none⟩
  | .image => .image ⟨"", none, none⟩

@[simp] theorem kind?_new (kind : WidgetKind) : (new kind).kind? = some kind := by
  cases kind <;> rfl

end WidgetBody

end Bulletin
