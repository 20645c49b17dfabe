import Bulletin.Digest
import Bulletin.Document.Basic
import Bulletin.Widget.Format
/-!
# Documents in JSON

Every field of a document may be left out. A header or footer that is left out is empty, not that
of a new document.
-/

namespace Bulletin

open Json (Format RecordShape)

namespace Theme

def shape : RecordShape Theme where
  name := "struct Theme"
  blank := .default
  fields :=
    [.defaulted "primaryColor" .text fun primaryColor theme => { theme with primaryColor },
      .defaulted "secondaryColor" .text fun secondaryColor theme => { theme with secondaryColor },
      .defaulted "accentColor" .text fun accentColor theme => { theme with accentColor },
      .defaulted "backgroundColor" .text fun backgroundColor theme =>
        { theme with backgroundColor },
      .defaulted "textColor" .text fun textColor theme => { theme with textColor },
      .defaulted "fontFamily" .text fun fontFamily theme => { theme with fontFamily },
      .defaulted "borderRadius" .text fun borderRadius theme => { theme with borderRadius }]

def toJson (theme : Theme) : Json :=
  .record
    [("primaryColor", .text theme.primaryColor), ("secondaryColor", .text theme.secondaryColor),
      ("accentColor", .text theme.accentColor), ("backgroundColor", .text theme.backgroundColor),
      ("textColor", .text theme.textColor), ("fontFamily", .text theme.fontFamily),
      ("borderRadius", .text theme.borderRadius)]

end Theme

namespace Header

def shape : RecordShape Header where
  name := "struct HeaderConfig"
  blank := ⟨"", "", false⟩
  fields :=
    [.defaulted "title" .text fun title header => { header with title },
      .defaulted "subtitle" .text fun subtitle header => { header with subtitle },
      .defaulted "showGradient" .flag fun showGradient header => { header with showGradient }]

def toJson (header : Header) : Json :=
  .record
    [("title", .text header.title), ("subtitle", .text header.subtitle),
      ("showGradient", .boolean header.showGradient)]

end Header

namespace Footer

def shape : RecordShape Footer where
  name := "struct FooterConfig"
  blank := ⟨"", false⟩
  fields :=
    [.defaulted "content" .text fun content footer => { footer with content },
      .defaulted "showGradientBorder" .flag fun showGradientBorder footer =>
        { footer with showGradientBorder }]

def toJson (footer : Footer) : Json :=
  .record
    [("content", .text footer.content),
      ("showGradientBorder", .boolean footer.showGradientBorder)]

end Footer

namespace Section

def shape : RecordShape Section where
  name := "struct Section"
  blank := ⟨"", "", [], none, none⟩
  fields :=
    [.defaulted "id" .text fun id part => { part with id },
      .defaulted "title" .text fun title part => { part with title },
      .defaulted "widgets" (.list Widget.format) fun widgets part => { part with widgets },
      .defaulted "borderColor" (.optional .text) fun borderColor part =>
        { part with borderColor },
      .defaulted "collapsed" (.optional .flag) fun collapsed part => { part with collapsed }]

def toJson (part : Section) : Json :=
  .record <|
    [("id", .text part.id), ("title", .text part.title),
      ("widgets", .list (part.widgets.map Widget.toJson))] ++
      Json.member? "borderColor" (part.borderColor.map .text) ++
      Json.member? "collapsed" (part.collapsed.map .boolean)

end Section

namespace Document

def shape : RecordShape Document where
  name := "struct EmailConfig"
  blank := ⟨Header.shape.blank, Footer.shape.blank, .default, []⟩
  fields :=
    [.defaulted "header" Header.shape.format fun header document => { document with header },
      .defaulted "footer" Footer.shape.format fun footer document => { document with footer },
      .defaulted "theme" Theme.shape.format fun theme document => { document with theme },
      .defaulted "sections" (.list Section.shape.format) fun sections document =>
        { document with sections }]

def format : Format Document :=
  shape.format

def toJson (document : Document) : Json :=
  .record
    [("header", document.header.toJson), ("footer", document.footer.toJson),
      ("theme", document.theme.toJson),
      ("sections", .list (document.sections.map Section.toJson))]

/-- The fingerprint of a document, which does not depend on how its file is written. -/
def fingerprint (document : Document) : String :=
  Digest.ofText (Json.canonicalText document.toJson)

end Document

end Bulletin
