import Bulletin.Proofs.Check.Unknown
import Mathlib.Data.List.Nodup
/-!
# What a check finds

A check finds every fault of a document and nothing else. It tells each of them once, rule by rule
and within a rule in the order of the document.
-/

namespace Bulletin

/-! ## Faults -/

inductive Rule where
  | unknownWidget
  | colorFormat
  | imageWidth
  | emptyLink
deriving DecidableEq, Repr

namespace Rule

/-- The rules in the order in which a check applies them. -/
def all : List Rule := [.unknownWidget, .colorFormat, .imageWidth, .emptyLink]

def name : Rule → String
  | .unknownWidget => "unknown_widget"
  | .colorFormat => "color_format"
  | .imageWidth => "image_width"
  | .emptyLink => "empty_link"

def severity : Rule → Severity
  | .unknownWidget => .error
  | .colorFormat => .warning
  | .imageWidth => .warning
  | .emptyLink => .info

theorem name_injective : Function.Injective name := by
  intro rule other same
  cases rule <;> cases other <;> first | rfl | exact absurd same (by decide)

end Rule

structure Fault where
  rule : Rule
  place : Place
deriving DecidableEq, Repr

inductive Document.Breaks (document : Document) : Rule → Place → Prop where
  | unknownWidget {place : WidgetPlace} {widget : Widget}
      (isThere : document.widgetAt? place = some widget) (unknown : widget.body = .unknown) :
      document.Breaks .unknownWidget (.widget place)
  | primaryColor (noColor : Rgb.parse? document.theme.primaryColor = none) :
      document.Breaks .colorFormat (.themeColor .primary)
  | secondaryColor (noColor : Rgb.parse? document.theme.secondaryColor = none) :
      document.Breaks .colorFormat (.themeColor .secondary)
  | accentColor (noColor : Rgb.parse? document.theme.accentColor = none) :
      document.Breaks .colorFormat (.themeColor .accent)
  | backgroundColor (noColor : Rgb.parse? document.theme.backgroundColor = none) :
      document.Breaks .colorFormat (.themeColor .background)
  | textColor (noColor : Rgb.parse? document.theme.textColor = none) :
      document.Breaks .colorFormat (.themeColor .text)
  | borderColor {index : Nat} {part : Section} {value : String}
      (isThere : document.sections[index]? = some part) (isBorder : part.borderColor = some value)
      (nonempty : value ≠ "") (noColor : Rgb.parse? value = none) :
      document.Breaks .colorFormat (.sectionBorder index)
  | imageWidth {place : WidgetPlace} {id : String} {image : Image} {width : String}
      (isThere : document.widgetAt? place = some ⟨id, .image image⟩)
      (isWidth : image.width = some width) (nonempty : width ≠ "")
      (unsupported : Text.trim width ∉ ["100%", "75%", "50%", "25%"]) :
      document.Breaks .imageWidth (.widget place)
  | buttonLink {place : WidgetPlace} {id : String} {button : SingleButton}
      (isThere : document.widgetAt? place = some ⟨id, .button button⟩)
      (blank : Text.trim button.url = "") :
      document.Breaks .emptyLink (.widget place)
  | groupLink {place : WidgetPlace} {id : String} {group : ButtonGroup} {index : Nat}
      {button : LinkButton} (isThere : document.widgetAt? place = some ⟨id, .buttonGroup group⟩)
      (inGroup : group.buttons[index]? = some button) (blank : Text.trim button.url = "") :
      document.Breaks .emptyLink (.nestedButton place index)
  | meetingLink {place : WidgetPlace} {id : String} {meeting : Meeting} {index : Nat}
      {button : LinkButton} (isThere : document.widgetAt? place = some ⟨id, .meeting meeting⟩)
      (inMeeting : meeting.buttons[index]? = some button) (blank : Text.trim button.url = "") :
      document.Breaks .emptyLink (.nestedButton place index)

theorem Document.breaks_themeColor_iff {document : Document} {color : ThemeColor} :
    document.Breaks .colorFormat (.themeColor color) ↔
      Rgb.parse? (color.value document.theme) = none := by
  constructor
  · intro breaks
    cases breaks <;> assumption
  · intro noColor
    cases color with
    | primary => exact .primaryColor noColor
    | secondary => exact .secondaryColor noColor
    | accent => exact .accentColor noColor
    | background => exact .backgroundColor noColor
    | text => exact .textColor noColor

/-! ## Places -/

namespace Place

def location : Place → String
  | .themeColor .primary => "theme.primaryColor"
  | .themeColor .secondary => "theme.secondaryColor"
  | .themeColor .accent => "theme.accentColor"
  | .themeColor .background => "theme.backgroundColor"
  | .themeColor .text => "theme.textColor"
  | .sectionBorder sectionIndex => "sections[" ++ toString sectionIndex ++ "].borderColor"
  | .widget place => place.location
  | .nestedButton place buttonIndex =>
      place.location ++ ".buttons[" ++ toString buttonIndex ++ "]"

theorem text_eq (place : Place) : place.text = place.location := by
  cases place with
  | themeColor color => cases color <;> rfl
  | sectionBorder sectionIndex =>
      apply String.toList_inj.mp
      simp [text, location, indexText_eq]
  | widget place => exact place.text_eq
  | nestedButton place buttonIndex =>
      apply String.toList_inj.mp
      simp [text, location, indexText_eq, place.text_eq]

/-- Where a place stands in a document: the number of a theme color, or those of a section, a
widget in it and a button in the widget. -/
def position : Place → List Nat
  | .themeColor .primary => [0, 0]
  | .themeColor .secondary => [0, 1]
  | .themeColor .accent => [0, 2]
  | .themeColor .background => [0, 3]
  | .themeColor .text => [0, 4]
  | .sectionBorder sectionIndex => [1, sectionIndex]
  | .widget place => [1, place.sectionIndex, place.widgetIndex]
  | .nestedButton place buttonIndex => [1, place.sectionIndex, place.widgetIndex, buttonIndex]

def depth : Place → Nat
  | .themeColor _ => 0
  | .sectionBorder _ => 1
  | .widget _ => 2
  | .nestedButton _ _ => 3

theorem count_indexText (index : Nat) : (indexText index).toList.count ']' = 1 := by
  have noDigit : ']' ∉ Number.digitChars index := fun member =>
    absurd (Number.isDigit_of_mem_digitChars member) (by decide)
  simp [indexText, Number.naturalText, List.count_eq_zero.mpr noDigit]

theorem count_text (place : Place) : place.text.toList.count ']' = place.depth := by
  cases place with
  | themeColor color => cases color <;> decide
  | _ => simp [text, WidgetPlace.text, depth, count_indexText]

theorem location_injective : Function.Injective location := by
  intro first second same
  rw [← text_eq, ← text_eq] at same
  have sameDepth : first.depth = second.depth := by rw [← count_text, same, count_text]
  cases first <;> cases second
  case themeColor.themeColor color other =>
    cases color <;> cases other <;> first | rfl | exact absurd same (by decide)
  case sectionBorder.sectionBorder index other =>
    simp only [text, String.append_assoc, String.append_right_inj] at same
    rw [(indexText_append_inj same).1]
  case widget.widget place other => rw [WidgetPlace.text_injective same]
  case nestedButton.nestedButton place index other otherIndex =>
    simp only [text, String.append_assoc] at same
    rcases WidgetPlace.text_append_inj same with ⟨rfl, inWidget⟩
    rw [String.append_right_inj] at inWidget
    rw [indexText_injective inWidget]
  all_goals cases sameDepth

end Place

theorem WidgetPlace.position_lt {first second : WidgetPlace} (before : first.Before second)
    (rest otherRest : List Nat) :
    1 :: first.sectionIndex :: first.widgetIndex :: rest <
      1 :: second.sectionIndex :: second.widgetIndex :: otherRest := by
  rcases before with inSections | ⟨sameSection, inWidgets⟩
  · exact List.cons_lt_cons_iff.mpr (.inr ⟨rfl, List.cons_lt_cons_iff.mpr (.inl inSections)⟩)
  · rw [sameSection]
    simp only [List.cons_lt_cons_iff, inWidgets, true_or, and_self, or_true]

/-- Faults come rule by rule, and those of one rule in the order of their places. -/
def Fault.Before (first second : Fault) : Prop :=
  Rule.all.idxOf first.rule < Rule.all.idxOf second.rule ∨
    first.rule = second.rule ∧ first.place.position < second.place.position

/-! ## What each rule finds -/

namespace Finding

def broken : Finding → Rule
  | .unknownWidget .. => .unknownWidget
  | .notColor .. => .colorFormat
  | .unsupportedWidth .. => .imageWidth
  | .emptyLink .. => .emptyLink

def fault (finding : Finding) : Fault :=
  ⟨finding.broken, finding.place⟩

theorem rule_eq (finding : Finding) : finding.rule = finding.broken.name := by
  cases finding <;> rfl

theorem severity_eq (finding : Finding) : finding.severity = finding.broken.severity := by
  cases finding <;> rfl

end Finding

namespace Document

/-- The findings are all that breaks one rule, each place once and in order. -/
structure Tells (document : Document) (rule : Rule) (findings : List Finding) : Prop where
  broken : ∀ finding ∈ findings, finding.broken = rule
  places : ∀ place, (∃ finding ∈ findings, finding.place = place) ↔ document.Breaks rule place
  ascending : findings.Pairwise fun first second => first.place.position < second.place.position

theorem tells_unknownWidgets (document : Document) :
    document.Tells .unknownWidget document.unknownWidgets where
  broken finding found := by
    rw [unknownWidgets_eq] at found
    rcases List.mem_map.mp found with ⟨placed, -, rfl⟩
    rfl
  places place := by
    simp only [unknownWidgets_eq, List.mem_map, Prod.exists, mem_placedUnknowns]
    constructor
    · rintro ⟨-, ⟨place, widget, ⟨isThere, unknown⟩, rfl⟩, rfl⟩
      exact .unknownWidget isThere unknown
    · rintro (⟨isThere, unknown⟩)
      exact ⟨_, ⟨_, _, ⟨isThere, unknown⟩, rfl⟩, rfl⟩
  ascending := by
    rw [unknownWidgets_eq]
    apply List.pairwise_map.mpr
    exact (document.pairwise_placedWidgets.filter _).imp fun before =>
      WidgetPlace.position_lt before [] []

theorem tells_badColors (document : Document) :
    document.Tells .colorFormat document.badColors where
  broken finding found := by
    rcases List.mem_append.mp found with inTheme | inSections
    · rcases List.mem_filterMap.mp inTheme with ⟨color, -, isBad⟩
      rw [(notColor?_eq_some.mp isBad).2]
      rfl
    · rcases List.mem_filterMap.mp inSections with ⟨⟨part, index⟩, -, shown⟩
      rcases Option.bind_eq_some_iff.mp shown with ⟨value, -, isBad⟩
      rw [(notColor?_eq_some.mp isBad).2]
      rfl
  places place := by
    simp only [badColors, List.mem_append, List.mem_filterMap, Prod.exists,
      Option.bind_eq_some_iff, notColor?_eq_some, shown?_eq_some]
    constructor
    · rintro ⟨-, ⟨color, -, noColor, rfl⟩ |
        ⟨part, index, isPart, value, isShown, noColor, rfl⟩, rfl⟩
      · exact breaks_themeColor_iff.mpr noColor
      · exact .borderColor (List.mk_mem_zipIdx_iff_getElem?.mp isPart) isShown.1 isShown.2 noColor
    · intro breaks
      cases place with
      | themeColor color =>
          have isColor : color ∈ ThemeColor.all := by cases color <;> decide
          exact ⟨_, .inl ⟨color, isColor, breaks_themeColor_iff.mp breaks, rfl⟩, rfl⟩
      | sectionBorder index =>
          cases breaks with
          | borderColor isThere isBorder nonempty noColor =>
              exact ⟨_, .inr ⟨_, index, List.mk_mem_zipIdx_iff_getElem?.mpr isThere, _,
                ⟨isBorder, nonempty⟩, noColor, rfl⟩, rfl⟩
      | widget place => cases breaks
      | nestedButton place index => cases breaks
  ascending := by
    have inTheme : ThemeColor.all.Pairwise fun first second =>
        (Place.themeColor first).position < (Place.themeColor second).position := by decide
    apply List.pairwise_append.mpr
    refine ⟨?_, ?_, ?_⟩
    · apply inTheme.filterMap
      intro first second ascends finding isBad other isOther
      rw [(notColor?_eq_some.mp isBad).2, (notColor?_eq_some.mp isOther).2]
      exact ascends
    · apply (pairwise_zipIdx document.sections).filterMap
      intro first second ascends finding shown other otherShown
      rcases Option.bind_eq_some_iff.mp shown with ⟨value, -, isBad⟩
      rcases Option.bind_eq_some_iff.mp otherShown with ⟨otherValue, -, isOther⟩
      rw [(notColor?_eq_some.mp isBad).2, (notColor?_eq_some.mp isOther).2]
      simpa [Finding.place, Place.position, List.cons_lt_cons_iff] using ascends
    · intro finding isInTheme other isInSections
      rcases List.mem_filterMap.mp isInTheme with ⟨color, -, isBad⟩
      rcases List.mem_filterMap.mp isInSections with ⟨⟨part, index⟩, -, shown⟩
      rcases Option.bind_eq_some_iff.mp shown with ⟨value, -, isOther⟩
      rw [(notColor?_eq_some.mp isBad).2, (notColor?_eq_some.mp isOther).2]
      cases color <;> exact List.cons_lt_cons_iff.mpr (.inl Nat.zero_lt_one)

theorem tells_badWidths (document : Document) :
    document.Tells .imageWidth document.badWidths where
  broken finding found := by
    rcases List.mem_filterMap.mp found with ⟨⟨place, widget⟩, -, isBad⟩
    rcases badWidth?_eq_some.mp isBad with ⟨image, width, -, -, -, -, rfl⟩
    rfl
  places place := by
    simp only [badWidths, List.mem_filterMap, Prod.exists, mem_placedWidgets, badWidth?_eq_some]
    constructor
    · rintro ⟨-, ⟨place, ⟨id, body⟩, isThere, image, width, rfl, isWidth, nonempty, isOther, rfl⟩,
        rfl⟩
      exact .imageWidth isThere isWidth nonempty isOther
    · rintro (_ | _)
      case imageWidth place id image width isThere isWidth nonempty unsupported =>
        exact ⟨_, ⟨place, _, isThere, image, width, rfl, isWidth, nonempty, unsupported, rfl⟩, rfl⟩
  ascending := by
    apply document.pairwise_placedWidgets.filterMap
    intro first second before finding isBad other isOther
    rcases badWidth?_eq_some.mp isBad with ⟨_, _, -, -, -, -, rfl⟩
    rcases badWidth?_eq_some.mp isOther with ⟨_, _, -, -, -, -, rfl⟩
    exact WidgetPlace.position_lt before [] []

theorem position_of_mem_emptyWidgetLinks {place : WidgetPlace} {body : WidgetBody}
    {finding : Finding} (found : finding ∈ emptyWidgetLinks place body) :
    finding.broken = .emptyLink ∧ ∃ rest, finding.place.position =
      1 :: place.sectionIndex :: place.widgetIndex :: rest := by
  have nested {buttons : List LinkButton} (found : finding ∈ emptyNestedLinks place buttons) :
      finding.broken = .emptyLink ∧ ∃ rest, finding.place.position =
        1 :: place.sectionIndex :: place.widgetIndex :: rest := by
    rcases mem_emptyNestedLinks.mp found with ⟨index, button, -, -, rfl⟩
    exact ⟨rfl, [index], rfl⟩
  cases body with
  | button button =>
      rcases emptyLink?_eq_some.mp (Option.mem_toList.mp found) with ⟨-, rfl⟩
      exact ⟨rfl, [], rfl⟩
  | buttonGroup group => exact nested found
  | meeting meeting => exact nested found
  | _ => cases found

theorem ascending_emptyNestedLinks (place : WidgetPlace) (buttons : List LinkButton) :
    (emptyNestedLinks place buttons).Pairwise fun first second =>
      first.place.position < second.place.position := by
  apply (pairwise_zipIdx buttons).filterMap
  intro first second ascends finding isEmpty other isOther
  rw [(emptyLink?_eq_some.mp isEmpty).2, (emptyLink?_eq_some.mp isOther).2]
  simpa [Finding.place, Place.position, List.cons_lt_cons_iff] using ascends

theorem ascending_emptyWidgetLinks (place : WidgetPlace) (body : WidgetBody) :
    (emptyWidgetLinks place body).Pairwise fun first second =>
      first.place.position < second.place.position := by
  cases body with
  | button button =>
      rw [emptyWidgetLinks]
      cases emptyLink? (.widget place) button.url button.text with
      | none => exact .nil
      | some finding => exact List.pairwise_singleton _ finding
  | buttonGroup group => exact ascending_emptyNestedLinks place group.buttons
  | meeting meeting => exact ascending_emptyNestedLinks place meeting.buttons
  | _ => exact .nil

theorem tells_emptyLinks (document : Document) :
    document.Tells .emptyLink document.emptyLinks where
  broken finding found := by
    rcases List.mem_flatMap.mp found with ⟨placed, -, inWidget⟩
    exact (position_of_mem_emptyWidgetLinks inWidget).1
  places place := by
    simp only [emptyLinks, List.mem_flatMap, Prod.exists, mem_placedWidgets]
    constructor
    · rintro ⟨finding, ⟨place, ⟨id, body⟩, isThere, found⟩, rfl⟩
      cases body with
      | button button =>
          rcases emptyLink?_eq_some.mp (Option.mem_toList.mp found) with ⟨blank, rfl⟩
          exact .buttonLink isThere blank
      | buttonGroup group =>
          rcases mem_emptyNestedLinks.mp found with ⟨index, button, inGroup, blank, rfl⟩
          exact .groupLink isThere inGroup blank
      | meeting meeting =>
          rcases mem_emptyNestedLinks.mp found with ⟨index, button, inMeeting, blank, rfl⟩
          exact .meetingLink isThere inMeeting blank
      | _ => cases found
    · rintro (_ | _)
      case buttonLink place id button isThere blank =>
        have found : .emptyLink (.widget place) button.text ∈
            emptyWidgetLinks place (.button button) :=
          Option.mem_toList.mpr (emptyLink?_eq_some.mpr ⟨blank, rfl⟩)
        exact ⟨_, ⟨place, _, isThere, found⟩, rfl⟩
      case groupLink place id group index button isThere inGroup blank =>
        have found : .emptyLink (.nestedButton place index) button.text ∈
            emptyNestedLinks place group.buttons :=
          mem_emptyNestedLinks.mpr ⟨index, button, inGroup, blank, rfl⟩
        exact ⟨_, ⟨place, _, isThere, found⟩, rfl⟩
      case meetingLink place id meeting index button isThere inMeeting blank =>
        have found : .emptyLink (.nestedButton place index) button.text ∈
            emptyNestedLinks place meeting.buttons :=
          mem_emptyNestedLinks.mpr ⟨index, button, inMeeting, blank, rfl⟩
        exact ⟨_, ⟨place, _, isThere, found⟩, rfl⟩
  ascending := by
    apply List.pairwise_flatMap.mpr
    constructor
    · rintro ⟨place, widget⟩ -
      exact ascending_emptyWidgetLinks place widget.body
    · apply document.pairwise_placedWidgets.imp
      intro first second before finding found other otherFound
      rcases (position_of_mem_emptyWidgetLinks found).2 with ⟨rest, position⟩
      rcases (position_of_mem_emptyWidgetLinks otherFound).2 with ⟨otherRest, otherPosition⟩
      rw [position, otherPosition]
      exact WidgetPlace.position_lt before rest otherRest

/-! ## Whole checks -/

def findingsOf (document : Document) : Rule → List Finding
  | .unknownWidget => document.unknownWidgets
  | .colorFormat => document.badColors
  | .imageWidth => document.badWidths
  | .emptyLink => document.emptyLinks

theorem tells_findingsOf (document : Document) (rule : Rule) :
    document.Tells rule (document.findingsOf rule) := by
  cases rule with
  | unknownWidget => exact document.tells_unknownWidgets
  | colorFormat => exact document.tells_badColors
  | imageWidth => exact document.tells_badWidths
  | emptyLink => exact document.tells_emptyLinks

theorem findings_eq (document : Document) :
    document.findings = Rule.all.flatMap document.findingsOf := by
  simp [findings, Rule.all, findingsOf]

theorem exists_finding_iff {document : Document} {rule : Rule} {place : Place} :
    (∃ finding ∈ document.findings, finding.fault = ⟨rule, place⟩) ↔
      document.Breaks rule place := by
  rw [← (document.tells_findingsOf rule).places, findings_eq]
  constructor
  · rintro ⟨finding, found, isFault⟩
    rcases List.mem_flatMap.mp found with ⟨other, -, inRule⟩
    rcases Fault.mk.inj isFault with ⟨sameRule, samePlace⟩
    rw [(document.tells_findingsOf other).broken finding inRule] at sameRule
    exact ⟨finding, sameRule ▸ inRule, samePlace⟩
  · rintro ⟨finding, inRule, rfl⟩
    have isRule : rule ∈ Rule.all := by cases rule <;> decide
    refine ⟨finding, List.mem_flatMap.mpr ⟨rule, isRule, inRule⟩, ?_⟩
    rw [Finding.fault, (document.tells_findingsOf rule).broken finding inRule]

theorem pairwise_findings (document : Document) :
    document.findings.Pairwise fun first second => first.fault.Before second.fault := by
  have inOrder : Rule.all.Pairwise fun first second =>
      Rule.all.idxOf first < Rule.all.idxOf second := by decide
  rw [findings_eq]
  apply List.pairwise_flatMap.mpr
  constructor
  · intro rule _
    have tells := document.tells_findingsOf rule
    refine tells.ascending.imp_of_mem fun {first second} isFirst isSecond ascends => ?_
    exact .inr ⟨(tells.broken first isFirst).trans (tells.broken second isSecond).symm, ascends⟩
  · refine inOrder.imp fun {rule other} before finding found next isNext => .inl ?_
    rw [Finding.fault, Finding.fault, (document.tells_findingsOf rule).broken finding found,
      (document.tells_findingsOf other).broken next isNext]
    exact before

theorem nodup_of_pairwise_before {faults : List Fault} (inOrder : faults.Pairwise Fault.Before) :
    faults.Nodup := by
  refine inOrder.imp fun {first second} before same => ?_
  rcases same with rfl
  rcases before with earlierRule | ⟨-, earlierPlace⟩
  · exact Nat.lt_irrefl _ earlierRule
  · exact List.lt_irrefl _ earlierPlace

theorem valid_check_iff {document : Document} :
    document.check.valid = false ↔ ∃ place, document.Breaks .unknownWidget place := by
  rw [← Bool.not_eq_true, valid_check, Bool.not_eq_true', hasErrors_check_iff]
  constructor
  · intro notAllKnown
    push Not at notAllKnown
    rcases notAllKnown with ⟨part, isPart, widget, isWidget, unknown⟩
    rcases exists_widgetAt?_iff.mpr ⟨part, isPart, isWidget⟩ with ⟨place, isThere⟩
    exact ⟨.widget place, .unknownWidget isThere unknown⟩
  · rintro ⟨-, ⟨isThere, unknown⟩⟩ allKnown
    rcases exists_widgetAt?_iff.mp ⟨_, isThere⟩ with ⟨part, isPart, isWidget⟩
    exact allKnown part isPart _ isWidget unknown

theorem map_violations_check (document : Document) :
    document.check.violations.map
        (fun violation => (violation.rule, violation.severity, violation.location)) =
      (document.findings.map Finding.fault).map
        fun fault => (fault.rule.name, fault.rule.severity, fault.place.location) := by
  rw [check, Report.ofViolations, List.map_map, List.map_map]
  refine List.map_congr_left fun finding _ => ?_
  exact Prod.ext finding.rule_eq (Prod.ext finding.severity_eq finding.place.text_eq)

/-- A check reports what breaks its rules and nothing else: by the name and with the severity of
the rule, at the location of the place, rule by rule and in the order of the document, and no rule
twice at one location. The document is valid unless it breaks the first of the rules. -/
theorem violations_check_exact (document : Document) :
    ∃ faults : List Fault,
      document.check.violations.map
          (fun violation => (violation.rule, violation.severity, violation.location)) =
        faults.map
          (fun fault => (fault.rule.name, fault.rule.severity, fault.place.location)) ∧
      (∀ rule place, ⟨rule, place⟩ ∈ faults ↔ document.Breaks rule place) ∧
      faults.Pairwise Fault.Before ∧
      (document.check.violations.map fun violation =>
        (violation.rule, violation.location)).Nodup ∧
      (document.check.valid = false ↔ ∃ place, document.Breaks .unknownWidget place) := by
  have inOrder : (document.findings.map Finding.fault).Pairwise Fault.Before :=
    List.pairwise_map.mpr document.pairwise_findings
  have told := document.map_violations_check
  refine ⟨document.findings.map Finding.fault, told, ?_, inOrder, ?_, valid_check_iff⟩
  · intro rule place
    rw [List.mem_map, exists_finding_iff]
  · have located : document.check.violations.map
        (fun violation => (violation.rule, violation.location)) =
          (document.findings.map Finding.fault).map
            fun fault => (fault.rule.name, fault.place.location) := by
      have shortened := congrArg (List.map fun told => (told.1, told.2.2)) told
      rwa [List.map_map, List.map_map] at shortened
    rw [located]
    refine (nodup_of_pairwise_before inOrder).map ?_
    rintro ⟨rule, place⟩ ⟨other, otherPlace⟩ same
    rcases Prod.mk.inj same with ⟨sameName, sameText⟩
    exact congrArg₂ Fault.mk (Rule.name_injective sameName) (Place.location_injective sameText)

/-- A document that breaks every rule, and one of them in every way. -/
def faulty : Document :=
  { Document.shape.blank with
    theme := { Theme.default with secondaryColor := "navy", textColor := "" }
    sections :=
      [⟨"", "", [⟨"d", .divider⟩], some "red", none⟩,
        ⟨"", "",
          [⟨"d", .divider⟩, ⟨"i", .image ⟨"i.png", none, some "60%"⟩⟩, ⟨"p", .unknown⟩,
            ⟨"g", .buttonGroup ⟨[⟨"a", "A", "#", .other ""⟩, ⟨"b", "B", " ", .other ""⟩]⟩⟩],
          some "", none⟩] }

example :
    faulty.check.violations.map (fun violation => (violation.rule, violation.location)) =
      [("unknown_widget", "sections[1].widgets[2]"), ("color_format", "theme.secondaryColor"),
        ("color_format", "theme.textColor"), ("color_format", "sections[0].borderColor"),
        ("image_width", "sections[1].widgets[1]"),
        ("empty_link", "sections[1].widgets[3].buttons[1]")] := by
  decide +kernel

end Document

end Bulletin
