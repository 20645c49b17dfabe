import Bulletin.Widget.Basic
/-!
# Documents

A document is what an announcement page is made from: a header, a footer, a theme, and sections
of widgets.
-/

namespace Bulletin

structure Theme where
  primaryColor : String
  secondaryColor : String
  accentColor : String
  backgroundColor : String
  textColor : String
  fontFamily : String
  borderRadius : String
deriving DecidableEq, Repr

def Theme.default : Theme where
  primaryColor := "#001489"
  secondaryColor := "#FFCD00"
  accentColor := "#BA0C2F"
  backgroundColor := "#ffffff"
  textColor := "#333333"
  fontFamily := "'Ubuntu', Arial, sans-serif"
  borderRadius := "8px"

structure Header where
  title : String
  subtitle : String
  showGradient : Bool
deriving DecidableEq, Repr

structure Footer where
  content : String
  showGradientBorder : Bool
deriving DecidableEq, Repr

structure Section where
  id : String
  title : String
  widgets : List Widget
  borderColor : Option String
  /-- Whether an editor shows the section folded; pages do not depend on it. -/
  collapsed : Option Bool
deriving DecidableEq, Repr

def Section.resolvedBorderColor (theme : Theme) (part : Section) : String :=
  (shown? part.borderColor).getD theme.secondaryColor

structure Document where
  header : Header
  footer : Footer
  theme : Theme
  sections : List Section
deriving DecidableEq, Repr

namespace Document

def starter : Document where
  header :=
    { title := "Squadron Announcements"
      subtitle := "Civil Air Patrol - Heartland Composite Squadron"
      showGradient := true }
  footer :=
    { content :=
        "Remember to \"Reply All\" if you have questions or need clarification on anything " ++
          "listed above."
      showGradientBorder := true }
  theme := .default
  sections := []

def widgetCount (document : Document) : Nat :=
  (document.sections.flatMap Section.widgets).length

end Document

end Bulletin
