import Bulletin.Color
import Bulletin.Document.Basic
import Bulletin.Page.VideoLink
import Bulletin.Text.Basic
/-!
# Pages and the widgets on them

A page is a sequence of pieces: markup that is the same whatever the document says, style sheet
text from the theme, and user text. Only user text is escaped, and it can stand in no other piece.
Everything is styled in place, since mail readers drop style sheets; the optional values and
variants of a widget are looked at only as they resolve.
-/

namespace Bulletin

/-! ## Pages -/

inductive Piece where
  /-- Fixed markup, written as it is. -/
  | markup (fixed : String)
  /-- Style sheet text, which is trusted and written as it is. -/
  | style (css : String)
  /-- User text, written escaped. -/
  | text (content : String)
deriving DecidableEq, Repr

def Piece.html : Piece → String
  | .markup fixed => fixed
  | .style css => css
  | .text content => Text.escape content

abbrev Page := List Piece

namespace Page

def html (page : Page) : String :=
  String.join (page.map Piece.html)

def join (separator : String) (pages : List Page) : Page :=
  List.intercalate [.markup separator] pages

end Page

/-! ## Buttons -/

def filledButtonCss (base color : String) (lift : Int) (textColor : String) : String :=
  base ++ " background: linear-gradient(135deg, " ++ color ++ " 0%, " ++
    Color.shade color lift ++ " 100%); color: " ++ textColor ++ "; box-shadow: 0 4px 12px " ++
    Color.translucent color .shadow ++ ";"

def ButtonTone.css (theme : Theme) (tone : ButtonTone) : String :=
  let base :=
    "display: inline-block; padding: 12px 24px; font-size: 0.95em; font-weight: 600; " ++
      "text-decoration: none; border-radius: 6px; transition: all 0.3s ease; cursor: pointer; " ++
      "border: none; text-align: center; font-family: " ++ theme.fontFamily ++ ";"
  match tone with
  | .primary => filledButtonCss base theme.primaryColor 30 "#fff"
  | .secondary => filledButtonCss base theme.secondaryColor 20 "#333"
  | .accent => filledButtonCss base theme.accentColor 20 "#fff"
  | .outline =>
      base ++ " background: transparent; border: 2px solid " ++ theme.primaryColor ++
        "; color: " ++ theme.primaryColor ++ ";"

def ButtonVariant.css (theme : Theme) (variant : ButtonVariant) : String :=
  variant.tone.css theme

def buttonLink (theme : Theme) (text url : String) (variant : ButtonVariant) : Page :=
  [.markup "<a href=\"", .text url, .markup "\" target=\"_blank\" style=\"",
    .style (variant.css theme), .markup "\">", .text text, .markup "</a>"]

def LinkButton.page (theme : Theme) (button : LinkButton) : Page :=
  buttonLink theme button.text button.url button.variant

def buttonRow (theme : Theme) (buttons : List LinkButton) : Page :=
  if buttons = [] then []
  else
    .markup
        ("<div style=\"display: flex; flex-wrap: wrap; gap: 10px; " ++
          "margin-top: 15px;\">\n          ") ::
      Page.join "\n          " (buttons.map (LinkButton.page theme)) ++
      [.markup "\n        </div>"]

/-! ## Text -/

def wrapIf (wrapped : Bool) (opening closing : String) (page : Page) : Page :=
  if wrapped then .markup opening :: page ++ [.markup closing] else page

def Paragraph.page (paragraph : Paragraph) : Page :=
  .markup "<p style=\"margin: 0 0 15px 0;\">" ::
    wrapIf paragraph.italic "<em>" "</em>"
      (wrapIf paragraph.bold "<strong>" "</strong>" [.text paragraph.content]) ++
    [.markup "</p>"]

def Heading.page (theme : Theme) (heading : Heading) : Page :=
  match heading.level.tag with
  | .h3 =>
      [.markup "<h3 style=\"color: ", .style theme.primaryColor,
        .markup "; font-size: 1.3em; font-weight: 700; margin: 0 0 15px 0;\">",
        .text heading.text, .markup "</h3>"]
  | .h4 =>
      [.markup "<h4 style=\"color: ", .style theme.primaryColor,
        .markup "; font-size: 1.1em; font-weight: 700; margin: 20px 0 10px 0;\">",
        .text heading.text, .markup "</h4>"]

def ListEntry.page (entry : ListEntry) : Page :=
  [.markup "<li style=\"margin: 10px 0; color: #555;\">", .text entry.text, .markup "</li>"]

def ItemList.page (list : ItemList) : Page :=
  let items := Page.join "\n          " (list.items.map ListEntry.page)
  if list.ordered then
    .markup "<ol style=\"margin: 15px 0; padding-left: 25px;\">\n          " :: items ++
      [.markup "\n        </ol>"]
  else
    .markup "<ul style=\"margin: 15px 0; padding-left: 25px;\">\n          " :: items ++
      [.markup "\n        </ul>"]

def dividerPage (theme : Theme) : Page :=
  [.markup "<hr style=\"border: none; border-top: 2px solid ", .style theme.secondaryColor,
    .markup "; margin: 25px 0;\">"]

/-! ## Notices -/

/-- The colors of a notice. Those of a success do not depend on the theme. -/
structure NoticePalette where
  background : String
  border : String
  text : String
deriving DecidableEq, Repr

def NoticeTone.palette (theme : Theme) : NoticeTone → NoticePalette
  | .info => ⟨"#e3f2fd", theme.primaryColor, "#1565c0"⟩
  | .warning =>
      ⟨"linear-gradient(135deg, #fff3cd 0%, #fffbea 100%)", theme.secondaryColor, "#856404"⟩
  | .success => ⟨"#e8f5e9", "#4caf50", "#2e7d32"⟩
  | .danger => ⟨"#ffebee", theme.accentColor, "#c62828"⟩

def Notice.page (theme : Theme) (notice : Notice) : Page :=
  let palette := notice.variant.tone.palette theme
  [.markup "<div style=\"background: ", .style palette.background,
    .markup "; border-left: 5px solid ", .style palette.border,
    .markup
      ("; padding: 25px; margin-bottom: 20px; border-radius: 8px; text-align: center; " ++
        "font-size: 1.2em; font-weight: 700; color: "),
    .style palette.text,
    .markup "; box-shadow: 0 4px 15px rgba(0, 0, 0, 0.1);\">\n        ",
    .text notice.content, .markup "\n      </div>"]

/-! ## Meetings -/

def DetailRow.page (row : DetailRow) : Page :=
  [.markup
      ("<div style=\"margin: 10px 0; font-size: 0.95em;\"><strong style=\"color: #555; " ++
        "font-weight: 600; min-width: 120px; display: inline-block;\">"),
    .text row.key, .markup ":</strong> ", .text row.value, .markup "</div>"]

def Meeting.page (theme : Theme) (meeting : Meeting) : Page :=
  [.markup
      ("<div style=\"background: linear-gradient(135deg, #f9f9f9 0%, #ffffff 100%); " ++
        "border-left: 5px solid "),
    .style theme.primaryColor,
    .markup
      ("; padding: 25px; margin-bottom: 20px; border-radius: 8px; box-shadow: 0 4px 15px " ++
        "rgba(0, 0, 0, 0.1);\">\n        <h3 style=\"color: "),
    .style theme.primaryColor,
    .markup
      ("; font-size: 1.4em; font-weight: 700; margin: 0 0 15px 0; display: flex; align-items: " ++
        "center; flex-wrap: wrap; gap: 10px;\">\n          "),
    .text meeting.title, .markup "\n        </h3>\n        "] ++
    Page.join "\n        " (meeting.details.map DetailRow.page) ++ [.markup "\n        "] ++
    buttonRow theme meeting.buttons ++ [.markup "\n      </div>"]

/-! ## Media -/

def captionPage : Option String → Page
  | some title =>
      [.markup "<p style=\"margin: 0 0 10px 0; font-weight: 600;\">", .text title, .markup "</p>"]
  | none => []

/-- A video is embedded where its link has a video id, and linked to otherwise. -/
def Video.page (video : Video) : Page :=
  .markup "<div style=\"margin: 20px 0;\">\n        " :: captionPage video.caption? ++
    match VideoLink.id? video.url with
    | some id =>
        [.markup
            ("\n        <div style=\"position: relative; padding-bottom: 56.25%; height: 0; " ++
              "overflow: hidden; border-radius: 8px;\">\n          <iframe style=\"position: " ++
              "absolute; top: 0; left: 0; width: 100%; height: 100%; border: none;\" " ++
              "src=\"https://www.youtube.com/embed/"),
          .text id, .markup "\" allowfullscreen></iframe>\n        </div>\n      </div>"]
    | none =>
        [.markup "\n        <a href=\"", .text video.url,
          .markup "\" target=\"_blank\" style=\"color: #1976d2;\">Watch Video</a>\n      </div>"]

def MapEmbed.page (map : MapEmbed) : Page :=
  .markup "<div style=\"margin: 20px 0;\">\n        " :: captionPage map.caption? ++
    [.markup
        ("\n        <div style=\"border-radius: 8px; overflow: hidden; box-shadow: 0 4px 15px " ++
          "rgba(0, 0, 0, 0.1);\">\n          <iframe style=\"width: 100%; height: 300px; " ++
          "border: none;\" src=\""),
      .text map.embedUrl,
      .markup "\" allowfullscreen loading=\"lazy\"></iframe>\n        </div>\n      </div>"]

def Image.page (image : Image) : Page :=
  [.markup "<div style=\"margin: 20px 0; text-align: center;\">\n        <img src=\"",
    .text image.url, .markup "\" alt=\"", .text image.altText,
    .markup "\" style=\"max-width: ", .style image.resolvedWidth,
    .markup
      ("; height: auto; border-radius: 8px; box-shadow: 0 4px 15px " ++
        "rgba(0, 0, 0, 0.1);\">\n      </div>")]

/-! ## All kinds -/

/-- A block of no known kind shows nothing. -/
def WidgetBody.page (theme : Theme) : WidgetBody → Page
  | .text body => body.page
  | .heading body => body.page theme
  | .button body => buttonLink theme body.text body.url body.variant
  | .buttonGroup body => buttonRow theme body.buttons
  | .list body => body.page
  | .divider => dividerPage theme
  | .notice body => body.page theme
  | .meeting body => body.page theme
  | .video body => body.page
  | .map body => body.page
  | .image body => body.page
  | .unknown => []

def Widget.page (theme : Theme) (widget : Widget) : Page :=
  widget.body.page theme

end Bulletin
