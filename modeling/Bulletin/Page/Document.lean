import Bulletin.Page.Widget
/-!
# The page of a document

Header, sections and footer inside a fixed shell, as one self-contained page.
-/

namespace Bulletin

def Section.page (theme : Theme) (part : Section) : Page :=
  [.markup "<div style=\"margin-bottom: 50px;\">\n      <h2 style=\"color: ",
    .style theme.primaryColor,
    .markup
      ("; font-size: 1.8em; font-weight: 700; margin: 0 0 25px 0; padding-bottom: 12px; " ++
        "border-bottom: 4px solid "),
    .style (part.resolvedBorderColor theme), .markup "; position: relative;\">\n        ",
    .text part.title, .markup "\n      </h2>\n      \n      "] ++
    Page.join "\n\n      " (part.widgets.map (Widget.page theme)) ++ [.markup "\n    </div>"]

def Header.backgroundCss (theme : Theme) (header : Header) : String :=
  if header.showGradient then
    "background: linear-gradient(135deg, " ++ theme.primaryColor ++ " 0%, " ++
      Color.shade theme.primaryColor 30 ++ " 100%);"
  else "background: " ++ theme.primaryColor ++ ";"

def Header.page (theme : Theme) (header : Header) : Page :=
  [.markup "<div style=\"", .style (header.backgroundCss theme),
    .markup
      (" color: #fff; padding: 50px 40px; text-align: center; position: relative; overflow: " ++
        "hidden; border-top: 6px solid; border-image: linear-gradient(90deg, "),
    .style theme.secondaryColor, .markup " 0%, ", .style theme.accentColor, .markup " 50%, ",
    .style theme.secondaryColor,
    .markup
      (" 100%) 1;\">\n      <h1 style=\"font-size: clamp(1.5em, 5vw, 2.8em); margin: 0 0 10px " ++
        "0; font-weight: 800; text-transform: uppercase; letter-spacing: 2px; text-shadow: 0 " ++
        "2px 8px rgba(0,0,0,0.25), 0 0 2px #fff; line-height: 1.1; color: #fff; background: " ++
        "rgba(0,0,0,0.08); border-radius: 8px; padding: 0.2em 0.5em; display: inline-block; " ++
        "word-break: break-word;\">\n        "),
    .text header.title,
    .markup
      ("\n      </h1>\n      <p style=\"font-size: clamp(1em, 2.5vw, 1.3em); font-weight: 500; " ++
        "opacity: 0.98; margin: 0; color: "),
    .style theme.secondaryColor,
    .markup
      ("; text-shadow: 0 1px 4px rgba(0,0,0,0.18); background: rgba(0,0,0,0.05); border-radius: " ++
        "6px; padding: 0.15em 0.4em; display: inline-block; word-break: break-word;\">\n        "),
    .text header.subtitle, .markup "\n      </p>\n    </div>"]

def Footer.borderCss (theme : Theme) (footer : Footer) : String :=
  if footer.showGradientBorder then
    "border-top: 6px solid; border-image: linear-gradient(90deg, " ++ theme.secondaryColor ++
      " 0%, " ++ theme.accentColor ++ " 50%, " ++ theme.primaryColor ++ " 100%) 1;"
  else "border-top: 2px solid " ++ theme.primaryColor ++ ";"

def Footer.page (theme : Theme) (footer : Footer) : Page :=
  [.markup
      ("<div style=\"background: linear-gradient(135deg, #f5f5f5 0%, #e8e8e8 100%); padding: " ++
        "30px; text-align: center; font-size: 1em; color: #666; "),
    .style (footer.borderCss theme), .markup "\">\n    <strong>", .text footer.content,
    .markup "</strong>\n  </div>"]

namespace Document

def openingPage (document : Document) : Page :=
  let theme := document.theme
  [.markup
      ("<!DOCTYPE html>\n<html lang=\"en\">\n<head>\n<meta charset=\"UTF-8\">\n<meta " ++
        "name=\"viewport\" content=\"width=device-width, initial-scale=1.0\">\n<title>"),
    .text document.header.title,
    .markup
      ("</title>\n<link rel=\"preconnect\" href=\"https://fonts.googleapis.com\">\n<link " ++
        "rel=\"preconnect\" href=\"https://fonts.gstatic.com\" crossorigin>\n<link " ++
        "href=\"https://fonts.googleapis.com/css2?family=Ubuntu:wght@400;500;700&display=swap\" " ++
        "rel=\"stylesheet\">\n</head>\n<body style=\"font-family: "),
    .style theme.fontFamily, .markup "; background: linear-gradient(135deg, ",
    .style theme.primaryColor, .markup " 0%, ", .style (Color.shade theme.primaryColor 40),
    .markup " 100%); color: ", .style theme.textColor,
    .markup
      ("; line-height: 1.6; padding: 20px; min-height: 100vh; margin: 0;\">\n\n<div " ++
        "style=\"max-width: 1000px; margin: 0 auto; background: "),
    .style theme.backgroundColor,
    .markup "; box-shadow: 0 20px 60px rgba(0, 0, 0, 0.3); border-radius: ",
    .style theme.borderRadius, .markup "; overflow: hidden;\">\n\n  "]

def page (document : Document) : Page :=
  document.openingPage ++ document.header.page document.theme ++
    [.markup "\n\n  <div style=\"padding: 40px;\">\n    "] ++
    Page.join "\n\n    " (document.sections.map (Section.page document.theme)) ++
    [.markup "\n  </div>\n\n  "] ++ document.footer.page document.theme ++
    [.markup "\n\n</div>\n\n</body>\n</html>"]

/-- The page of a document, as text. Every document has one. -/
def html (document : Document) : String :=
  document.page.html

end Document

end Bulletin
