import Bulletin.Json.Format
import Bulletin.Widget.Basic
/-!
# Widgets in JSON

A widget is an object with its id, the tag of its kind under `type`, and the fields of its body
beside them, in any order. Since the tag may come last, the members are read as plain values first
and turned into a body when the tag is known. A body alone may also be an array of the tag and the
fields in order.
-/

namespace Bulletin

open Json (Allowance Cause Choice Cursor Fault Field Format RecordShape Surplus)

/-! ## Variants and nested items -/

def ButtonVariant.format : Format ButtonVariant :=
  Format.text.map ButtonVariant.ofName

def NoticeVariant.format : Format NoticeVariant :=
  Format.text.map NoticeVariant.ofName

def HeadingLevel.format : Format HeadingLevel :=
  Format.text.map HeadingLevel.ofName

namespace LinkButton

def shape : RecordShape LinkButton where
  name := "struct ButtonStyle"
  blank := ⟨"", "", "", .primary⟩
  fields :=
    [.defaulted "id" .text fun id button => { button with id },
      .defaulted "text" .text fun text button => { button with text },
      .defaulted "url" .text fun url button => { button with url },
      .defaulted "variant" ButtonVariant.format fun variant button => { button with variant }]

def toJson (button : LinkButton) : Json :=
  .record
    [("id", .text button.id), ("text", .text button.text), ("url", .text button.url),
      ("variant", .text button.variant.name)]

end LinkButton

namespace ListEntry

def shape : RecordShape ListEntry where
  name := "struct ListItem"
  blank := ⟨"", ""⟩
  fields :=
    [.defaulted "id" .text fun id entry => { entry with id },
      .defaulted "text" .text fun text entry => { entry with text }]

def toJson (entry : ListEntry) : Json :=
  .record [("id", .text entry.id), ("text", .text entry.text)]

end ListEntry

namespace DetailRow

def shape : RecordShape DetailRow where
  name := "struct KeyValueItem"
  blank := ⟨"", "", ""⟩
  fields :=
    [.defaulted "id" .text fun id row => { row with id },
      .defaulted "key" .text fun key row => { row with key },
      .defaulted "value" .text fun value row => { row with value }]

def toJson (row : DetailRow) : Json :=
  .record [("id", .text row.id), ("key", .text row.key), ("value", .text row.value)]

end DetailRow

/-! ## Bodies -/

namespace Paragraph

def shape : RecordShape Paragraph where
  name := "struct TextWidget"
  blank := ⟨"", none, none⟩
  fields :=
    [.defaulted "content" .text fun content body => { body with content },
      .defaulted "isBold" (.optional .flag) fun isBold body => { body with isBold },
      .defaulted "isItalic" (.optional .flag) fun isItalic body => { body with isItalic }]

def members (body : Paragraph) : List (String × Json) :=
  ("content", .text body.content) :: Json.member? "isBold" (body.isBold.map .boolean) ++
    Json.member? "isItalic" (body.isItalic.map .boolean)

end Paragraph

namespace Heading

def shape : RecordShape Heading where
  name := "struct HeadingWidget"
  blank := ⟨"", .h3⟩
  fields :=
    [.defaulted "text" .text fun text body => { body with text },
      .defaulted "level" HeadingLevel.format fun level body => { body with level }]

def members (body : Heading) : List (String × Json) :=
  [("text", .text body.text), ("level", .text body.level.name)]

end Heading

namespace SingleButton

def shape : RecordShape SingleButton where
  name := "struct ButtonWidget"
  blank := ⟨"", "", .primary⟩
  fields :=
    [.defaulted "text" .text fun text body => { body with text },
      .defaulted "url" .text fun url body => { body with url },
      .defaulted "variant" ButtonVariant.format fun variant body => { body with variant }]

def members (body : SingleButton) : List (String × Json) :=
  [("text", .text body.text), ("url", .text body.url), ("variant", .text body.variant.name)]

end SingleButton

namespace ButtonGroup

def shape : RecordShape ButtonGroup where
  name := "struct ButtonGroupWidget"
  blank := ⟨[]⟩
  fields :=
    [.defaulted "buttons" (.list LinkButton.shape.format) fun buttons _ => ⟨buttons⟩]

def members (body : ButtonGroup) : List (String × Json) :=
  [("buttons", .list (body.buttons.map LinkButton.toJson))]

end ButtonGroup

namespace ItemList

def shape : RecordShape ItemList where
  name := "struct ListWidget"
  blank := ⟨[], none⟩
  fields :=
    [.defaulted "items" (.list ListEntry.shape.format) fun items body => { body with items },
      .defaulted "ordered" (.optional .flag) fun isOrdered body => { body with isOrdered }]

def members (body : ItemList) : List (String × Json) :=
  ("items", .list (body.items.map ListEntry.toJson)) ::
    Json.member? "ordered" (body.isOrdered.map .boolean)

end ItemList

namespace Notice

def shape : RecordShape Notice where
  name := "struct NoticeWidget"
  blank := ⟨"", .info⟩
  fields :=
    [.defaulted "content" .text fun content body => { body with content },
      .defaulted "variant" NoticeVariant.format fun variant body => { body with variant }]

def members (body : Notice) : List (String × Json) :=
  [("content", .text body.content), ("variant", .text body.variant.name)]

end Notice

namespace Meeting

def shape : RecordShape Meeting where
  name := "struct MeetingWidget"
  blank := ⟨"", [], []⟩
  fields :=
    [.defaulted "title" .text fun title body => { body with title },
      .defaulted "details" (.list DetailRow.shape.format) fun details body =>
        { body with details },
      .defaulted "buttons" (.list LinkButton.shape.format) fun buttons body =>
        { body with buttons }]

def members (body : Meeting) : List (String × Json) :=
  [("title", .text body.title), ("details", .list (body.details.map DetailRow.toJson)),
    ("buttons", .list (body.buttons.map LinkButton.toJson))]

end Meeting

namespace Video

def shape : RecordShape Video where
  name := "struct VideoWidget"
  blank := ⟨"", none⟩
  fields :=
    [.defaulted "url" .text fun url body => { body with url },
      .defaulted "title" (.optional .text) fun title body => { body with title }]

def members (body : Video) : List (String × Json) :=
  ("url", .text body.url) :: Json.member? "title" (body.title.map .text)

end Video

namespace MapEmbed

def shape : RecordShape MapEmbed where
  name := "struct MapWidget"
  blank := ⟨"", none⟩
  fields :=
    [.defaulted "embedUrl" .text fun embedUrl body => { body with embedUrl },
      .defaulted "title" (.optional .text) fun title body => { body with title }]

def members (body : MapEmbed) : List (String × Json) :=
  ("embedUrl", .text body.embedUrl) :: Json.member? "title" (body.title.map .text)

end MapEmbed

namespace Image

def shape : RecordShape Image where
  name := "struct ImageWidget"
  blank := ⟨"", none, none⟩
  fields :=
    [.defaulted "url" .text fun url body => { body with url },
      .defaulted "alt" (.optional .text) fun alt body => { body with alt },
      .defaulted "width" (.optional .text) fun width body => { body with width }]

def members (body : Image) : List (String × Json) :=
  ("url", .text body.url) :: Json.member? "alt" (body.alt.map .text) ++
    Json.member? "width" (body.width.map .text)

end Image

/-! ## Kinds -/

namespace WidgetKind

def choice : Choice WidgetKind where
  names := all.map fun kind => (kind.tag, kind)

def format : Format WidgetKind :=
  choice.format

/-- The kinds in the order in which a number can stand for a tag. -/
def numbered : List WidgetKind :=
  [.text, .heading, .button, .buttonGroup, .list, .divider, .notice, .meeting, .video, .map,
    .image]

/-- The kind of a tag in a value that was read before; none for a kind that is not known. -/
def ofTagJson : Json → Except Cause (Option WidgetKind)
  | .text tag => .ok (ofTag? tag)
  | .number (.integer index) =>
      if 0 ≤ index then .ok numbered[index.toNat]?
      else .error (.wrongType (.number (.integer index)) "variant identifier")
  | value => .error (.wrongType value.found "variant identifier")

/-- The kind of a tag in a text, where only a string can be a tag. -/
def readTag (allowance : Allowance) (cursor : Cursor) :
    Except Fault (Option WidgetKind × Cursor) :=
  let cursor := cursor.skipSpaces
  match cursor.rest with
  | '"' :: rest =>
      (Json.stringBody allowance.steps [] (cursor.next rest)).map fun (tag, after) =>
        (ofTag? tag, after)
  | _ => .error (Json.wrongTypeAt allowance cursor "variant identifier")

end WidgetKind

namespace WidgetBody

def ofEmptyPayload (body : WidgetBody) : Json → Except Cause WidgetBody
  | .array (.cons _ tail) => .error (Surplus.counted.cause (tail.toList.length + 1) 0)
  | _ => .ok body

def ofPayload (payload : Json) : Option WidgetKind → Except Cause WidgetBody
  | some .text => (Paragraph.shape.ofJson .counted payload).map .text
  | some .heading => (Heading.shape.ofJson .counted payload).map .heading
  | some .button => (SingleButton.shape.ofJson .counted payload).map .button
  | some .buttonGroup => (ButtonGroup.shape.ofJson .counted payload).map .buttonGroup
  | some .list => (ItemList.shape.ofJson .counted payload).map .list
  | some .divider => ofEmptyPayload .divider payload
  | some .notice => (Notice.shape.ofJson .counted payload).map .notice
  | some .meeting => (Meeting.shape.ofJson .counted payload).map .meeting
  | some .video => (Video.shape.ofJson .counted payload).map .video
  | some .map => (MapEmbed.shape.ofJson .counted payload).map .map
  | some .image => (Image.shape.ofJson .counted payload).map .image
  | none => ofEmptyPayload .unknown payload

def tagKey : String := "type"

/-- A tag, once it was found, and the other members, the last one first. -/
structure Tagged where
  kind : Option (Option WidgetKind)
  members : List (String × Json)

namespace Tagged

def body (tagged : Tagged) : Except Cause WidgetBody :=
  match tagged.kind with
  | some kind? => ofPayload (.record tagged.members.reverse) kind?
  | none => .error (.missingField tagKey)

def take (tagged : Tagged) (member : String × Json) : Except Cause Tagged :=
  if member.1 = tagKey then
    match tagged.kind with
    | some _ => .error (.duplicateField tagKey)
    | none => (WidgetKind.ofTagJson member.2).map fun kind? => { tagged with kind := some kind? }
  else .ok { tagged with members := member :: tagged.members }

end Tagged

def ofMembers (members : List (String × Json)) : Except Cause WidgetBody := do
  let tagged ← members.foldlM Tagged.take ⟨none, []⟩
  tagged.body

def expected : String := "internally tagged enum WidgetKind"

def ofJson : Json → Except Cause WidgetBody
  | .object members => ofMembers members.toList
  | .array .nil => .error (.missingField tagKey)
  | .array (.cons tag fields) => do
      let kind? ← WidgetKind.ofTagJson tag
      ofPayload (.array fields) kind?
  | value => .error (.wrongType value.found expected)

def readMember (allowance : Allowance) (tagged : Tagged) (key : String) (cursor : Cursor) :
    Except Fault (Tagged × Cursor) := do
  if key = tagKey then
    if tagged.kind.isSome then .error (.pending (.duplicateField tagKey) cursor)
    else
      let (kind?, cursor) ← WidgetKind.readTag allowance (← Json.colon cursor)
      return ({ tagged with kind := some kind? }, cursor)
  else
    let (value, cursor) ←
      Json.readValue allowance.steps allowance.depth (← Json.colon cursor)
    return ({ tagged with members := (key, value) :: tagged.members }, cursor)

def readObject (allowance : Allowance) (cursor : Cursor) :
    Except Fault ((Option WidgetKind × Json) × Cursor) := do
  let (tagged, cursor) ←
    Json.foldMembers (readMember allowance) allowance.steps allowance.steps true ⟨none, []⟩ cursor
  match tagged.kind with
  | some kind? => return ((kind?, .record tagged.members.reverse), cursor)
  | none => .error (.pending (.missingField tagKey) cursor)

def readArray (allowance : Allowance) (cursor : Cursor) :
    Except Fault ((Option WidgetKind × Json) × Cursor) := do
  let (more, cursor) ← Json.nextItem true cursor
  if more then
    let (kind?, cursor) ← WidgetKind.readTag allowance cursor
    let (fields, cursor) ←
      Json.foldItems
        (fun fields cursor =>
          (Json.readValue allowance.steps allowance.depth cursor).map fun (value, after) =>
            (value :: fields, after))
        allowance.steps false [] cursor
    return ((kind?, .list fields.reverse), cursor)
  else .error (.pending (.missingField tagKey) cursor)

/-- A body that stands alone. A fault in its fields is found when all of it was read, so that its
place is left to what is around it. -/
def read (allowance : Allowance) (cursor : Cursor) : Except Fault (WidgetBody × Cursor) := do
  let cursor := cursor.skipSpaces
  let ((kind?, payload), cursor) ←
    match cursor.rest with
    | '[' :: rest => Json.inArray allowance cursor rest readArray
    | '\x7b' :: rest => Json.inObject allowance cursor rest readObject
    | _ => .error (Json.wrongTypeAt allowance cursor expected)
  match ofPayload payload kind? with
  | .ok body => return (body, cursor)
  | .error cause => .error (.pending cause cursor)

def format : Format WidgetBody where
  read := read
  ofJson _ := ofJson

def members : WidgetBody → List (String × Json)
  | .text body => (tagKey, .text WidgetKind.text.tag) :: body.members
  | .heading body => (tagKey, .text WidgetKind.heading.tag) :: body.members
  | .button body => (tagKey, .text WidgetKind.button.tag) :: body.members
  | .buttonGroup body => (tagKey, .text WidgetKind.buttonGroup.tag) :: body.members
  | .list body => (tagKey, .text WidgetKind.list.tag) :: body.members
  | .divider => [(tagKey, .text WidgetKind.divider.tag)]
  | .notice body => (tagKey, .text WidgetKind.notice.tag) :: body.members
  | .meeting body => (tagKey, .text WidgetKind.meeting.tag) :: body.members
  | .video body => (tagKey, .text WidgetKind.video.tag) :: body.members
  | .map body => (tagKey, .text WidgetKind.map.tag) :: body.members
  | .image body => (tagKey, .text WidgetKind.image.tag) :: body.members
  | .unknown => [(tagKey, .text "unknown")]

def toJson (body : WidgetBody) : Json :=
  .record body.members

end WidgetBody

/-! ## Widgets -/

namespace Widget

def idKey : String := "id"

structure Gathered where
  id : Option String
  members : List (String × Json)

namespace Gathered

def widget (gathered : Gathered) : Except Cause Widget :=
  (WidgetBody.ofMembers gathered.members.reverse).map fun body => ⟨gathered.id.getD "", body⟩

def take (surplus : Surplus) (gathered : Gathered) (member : String × Json) :
    Except Cause Gathered :=
  if member.1 = idKey then
    match gathered.id with
    | some _ => .error (.duplicateField idKey)
    | none => (Format.text.ofJson surplus member.2).map fun id => { gathered with id := some id }
  else .ok { gathered with members := member :: gathered.members }

end Gathered

def expected : String := "struct Widget"

def ofJson (surplus : Surplus) : Json → Except Cause Widget
  | .object members => do
      let gathered ← members.toList.foldlM (Gathered.take surplus) ⟨none, []⟩
      gathered.widget
  | value => .error (.wrongType value.found expected)

def readMember (allowance : Allowance) (gathered : Gathered) (key : String) (cursor : Cursor) :
    Except Fault (Gathered × Cursor) := do
  if key = idKey then
    if gathered.id.isSome then .error (.pending (.duplicateField idKey) cursor)
    else
      let (id, cursor) ← Format.text.read allowance (← Json.colon cursor)
      return ({ gathered with id := some id }, cursor)
  else
    let (value, cursor) ←
      Json.readValue allowance.steps allowance.depth (← Json.colon cursor)
    return ({ gathered with members := (key, value) :: gathered.members }, cursor)

def readMembers (allowance : Allowance) (cursor : Cursor) : Except Fault (Widget × Cursor) := do
  let (gathered, cursor) ←
    Json.foldMembers (readMember allowance) allowance.steps allowance.steps true ⟨none, []⟩ cursor
  match gathered.widget with
  | .ok widget => return (widget, cursor)
  | .error cause => .error (.pending cause cursor)

def read (allowance : Allowance) (cursor : Cursor) : Except Fault (Widget × Cursor) :=
  let cursor := cursor.skipSpaces
  match cursor.rest with
  | '\x7b' :: rest => Json.inObject allowance cursor rest readMembers
  | _ => .error (Json.wrongTypeAt allowance cursor expected)

def format : Format Widget where
  read := read
  ofJson := ofJson

def toJson (widget : Widget) : Json :=
  .record ((idKey, .text widget.id) :: widget.body.members)

end Widget

end Bulletin
