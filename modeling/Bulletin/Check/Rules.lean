import Bulletin.Check.Violation
import Bulletin.Color
import Bulletin.Document.Basic
/-!
# Checking documents

Four rules, in the order in which their findings are reported: widgets must be of a known kind,
colors must be colors, images must have a supported width, and buttons must lead somewhere. Only
an unknown widget makes a document invalid.
-/

namespace Bulletin

/-! ## Places -/

inductive ThemeColor where
  | primary
  | secondary
  | accent
  | background
  | text
deriving DecidableEq, Repr

namespace ThemeColor

def all : List ThemeColor := [.primary, .secondary, .accent, .background, .text]

def field : ThemeColor → String
  | .primary => "primaryColor"
  | .secondary => "secondaryColor"
  | .accent => "accentColor"
  | .background => "backgroundColor"
  | .text => "textColor"

def value (theme : Theme) : ThemeColor → String
  | .primary => theme.primaryColor
  | .secondary => theme.secondaryColor
  | .accent => theme.accentColor
  | .background => theme.backgroundColor
  | .text => theme.textColor

end ThemeColor

structure WidgetPlace where
  sectionIndex : Nat
  widgetIndex : Nat
deriving DecidableEq, Repr

inductive Place where
  | themeColor (color : ThemeColor)
  | sectionBorder (sectionIndex : Nat)
  | widget (place : WidgetPlace)
  | nestedButton (place : WidgetPlace) (buttonIndex : Nat)
deriving DecidableEq, Repr

def indexText (index : Nat) : String :=
  "[" ++ Number.naturalText index ++ "]"

def WidgetPlace.text (place : WidgetPlace) : String :=
  "sections" ++ indexText place.sectionIndex ++ ".widgets" ++ indexText place.widgetIndex

def Place.text : Place → String
  | .themeColor color => "theme." ++ color.field
  | .sectionBorder sectionIndex => "sections" ++ indexText sectionIndex ++ ".borderColor"
  | .widget place => place.text
  | .nestedButton place buttonIndex => place.text ++ ".buttons" ++ indexText buttonIndex

/-! ## Findings -/

inductive Finding where
  | unknownWidget (place : WidgetPlace) (id : String)
  | notColor (place : Place) (value : String)
  | unsupportedWidth (place : WidgetPlace) (width : String)
  | emptyLink (place : Place) (label : String)
deriving DecidableEq, Repr

namespace Finding

def place : Finding → Place
  | .unknownWidget place _ => .widget place
  | .notColor place _ => place
  | .unsupportedWidth place _ => .widget place
  | .emptyLink place _ => place

def rule : Finding → String
  | .unknownWidget .. => "unknown_widget"
  | .notColor .. => "color_format"
  | .unsupportedWidth .. => "image_width"
  | .emptyLink .. => "empty_link"

def severity : Finding → Severity
  | .unknownWidget .. => .error
  | .notColor .. => .warning
  | .unsupportedWidth .. => .warning
  | .emptyLink .. => .info

def message : Finding → String
  | .unknownWidget _ id => "Widget '" ++ id ++ "' has an unrecognized type"
  | .notColor _ value => "'" ++ value ++ "' is not a hex color; derived shades will be skipped"
  | .unsupportedWidth _ width => "Image width '" ++ width ++ "' is not a supported size"
  | .emptyLink _ label => "'" ++ label ++ "' has no link target"

def remediation : Finding → String
  | .unknownWidget .. => "Remove the widget or re-create it with a supported type"
  | .notColor .. => "Use a #RRGGBB color"
  | .unsupportedWidth .. => "Use one of " ++ String.intercalate ", " Image.widths
  | .emptyLink .. => "Fill in the URL before sending"

def violation (finding : Finding) : Violation where
  rule := finding.rule
  severity := finding.severity
  message := finding.message
  location := finding.place.text
  remediation := [finding.remediation]

end Finding

/-! ## Rules -/

namespace Document

def placedWidgets (document : Document) : List (WidgetPlace × Widget) :=
  document.sections.zipIdx.flatMap fun (part, sectionIndex) =>
    part.widgets.zipIdx.map fun (widget, widgetIndex) => (⟨sectionIndex, widgetIndex⟩, widget)

def unknownWidgets (document : Document) : List Finding :=
  document.placedWidgets.filterMap fun (place, widget) =>
    if widget.body = .unknown then some (.unknownWidget place widget.id) else none

def notColor? (place : Place) (value : String) : Option Finding :=
  if (Rgb.parse? value).isSome then none else some (.notColor place value)

/-- The colors of the theme, then the border colors that sections have of their own. -/
def badColors (document : Document) : List Finding :=
  (ThemeColor.all.filterMap fun color =>
      notColor? (.themeColor color) (color.value document.theme)) ++
    document.sections.zipIdx.filterMap fun (part, sectionIndex) =>
      (shown? part.borderColor).bind (notColor? (.sectionBorder sectionIndex))

def badWidth? (place : WidgetPlace) : WidgetBody → Option Finding
  | .image image =>
      match image.requestedWidth? with
      | some width =>
          if Image.widths.contains (Text.trim width) then none
          else some (.unsupportedWidth place width)
      | none => none
  | _ => none

def badWidths (document : Document) : List Finding :=
  document.placedWidgets.filterMap fun (place, widget) => badWidth? place widget.body

def emptyLink? (place : Place) (url label : String) : Option Finding :=
  if Text.isAllBlank url then some (.emptyLink place label) else none

def emptyNestedLinks (place : WidgetPlace) (buttons : List LinkButton) : List Finding :=
  buttons.zipIdx.filterMap fun (button, index) =>
    emptyLink? (.nestedButton place index) button.url button.text

def emptyWidgetLinks (place : WidgetPlace) : WidgetBody → List Finding
  | .button button => (emptyLink? (.widget place) button.url button.text).toList
  | .buttonGroup group => emptyNestedLinks place group.buttons
  | .meeting meeting => emptyNestedLinks place meeting.buttons
  | _ => []

def emptyLinks (document : Document) : List Finding :=
  document.placedWidgets.flatMap fun (place, widget) => emptyWidgetLinks place widget.body

def findings (document : Document) : List Finding :=
  document.unknownWidgets ++ document.badColors ++ document.badWidths ++ document.emptyLinks

def check (document : Document) : Report :=
  .ofViolations (document.findings.map Finding.violation)

end Document

end Bulletin
