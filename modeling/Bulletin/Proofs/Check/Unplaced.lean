import Bulletin.Check.Rules
import Mathlib.Data.List.Basic
import Mathlib.Data.List.Flatten
import Mathlib.Data.List.Forall2
import Mathlib.Data.List.Perm.Subperm
/-!
# Violations without their locations

What a rule says of a theme, of the border of a section and of a widget depends on where they stand
in nothing but the location. So a check says of a document what there is to say of its theme, of the
borders and of the widgets one by one; a document that has lost some of them, or has them in another
order, breaks no rule more often.
-/

namespace Bulletin

/-! ## Lists -/

theorem subperm_flatMap {items others : List α} (subperm : items.Subperm others)
    (f : α → List β) : (items.flatMap f).Subperm (others.flatMap f) := by
  rcases subperm with ⟨middle, perm, sublist⟩
  exact ⟨middle.flatMap f, perm.flatMap_right f, sublist.flatMap f⟩

theorem subperm_flatMap_of_forall₂ {f : α → List β} {items others : List α}
    (related : List.Forall₂ (fun item other => (f item).Subperm (f other)) items others) :
    (items.flatMap f).Subperm (others.flatMap f) := by
  induction related with
  | nil => exact .refl _
  | cons subperm _ induction =>
      rw [List.flatMap_cons, List.flatMap_cons]
      exact subperm.append induction

theorem flatMap_zipIdx {ofPlaced : α × Nat → List β} {ofItem : α → List β}
    (same : ∀ item index, ofPlaced (item, index) = ofItem item) (items : List α) :
    items.zipIdx.flatMap ofPlaced = items.flatMap ofItem := by
  have alike : ofPlaced = fun placed => ofItem placed.1 :=
    funext fun placed => same placed.1 placed.2
  rw [alike, ← List.flatMap_map, List.zipIdx_map_fst]

/-! ## Violations -/

/-- The violation as it is wherever it is found. -/
def Violation.unplaced (violation : Violation) : Violation :=
  { violation with location := "" }

def Report.ruleCount (report : Report) (rule : String) : Nat :=
  report.violations.countP fun violation => violation.rule = rule

def Report.unplaced (report : Report) : List Violation :=
  report.violations.map Violation.unplaced

theorem Report.ruleCount_le {report other : Report}
    (subperm : report.unplaced.Subperm other.unplaced) (rule : String) :
    report.ruleCount rule ≤ other.ruleCount rule := by
  have inReport (report : Report) : report.ruleCount rule =
      report.unplaced.countP fun violation => violation.rule = rule := by
    rw [ruleCount, unplaced, List.countP_map]
    rfl
  rw [inReport, inReport]
  exact subperm.countP_le _

def Finding.unplaced (findings : List Finding) : List Violation :=
  findings.map fun finding => finding.violation.unplaced

theorem Finding.unplaced_append (findings others : List Finding) :
    unplaced (findings ++ others) = unplaced findings ++ unplaced others :=
  List.map_append

theorem Finding.unplaced_flatMap (findingsOf : α → List Finding) (items : List α) :
    unplaced (items.flatMap findingsOf) = items.flatMap fun item => unplaced (findingsOf item) :=
  List.map_flatMap

/-! ## Themes and borders -/

open Finding (unplaced)

def Theme.violations (theme : Theme) : List Violation :=
  unplaced (ThemeColor.all.filterMap fun color =>
    Document.notColor? (.themeColor color) (color.value theme))

def borderViolations (border? : Option String) : List Violation :=
  unplaced ((shown? border?).bind (Document.notColor? (.sectionBorder 0))).toList

/-! ## Widgets -/

namespace Document

def unknown? (place : WidgetPlace) (widget : Widget) : Option Finding :=
  if widget.body = .unknown then some (.unknownWidget place widget.id) else none

theorem unplaced_notColor? (place other : Place) (value : String) :
    unplaced (notColor? place value).toList = unplaced (notColor? other value).toList := by
  rw [notColor?, notColor?]
  split <;> rfl

theorem unplaced_unknown? (place other : WidgetPlace) (widget : Widget) :
    unplaced (unknown? place widget).toList = unplaced (unknown? other widget).toList := by
  rw [unknown?, unknown?]
  split <;> rfl

theorem unplaced_badWidth? (place other : WidgetPlace) (body : WidgetBody) :
    unplaced (badWidth? place body).toList = unplaced (badWidth? other body).toList := by
  cases body with
  | image image =>
      rw [badWidth?, badWidth?]
      split
      · split <;> rfl
      · rfl
  | _ => rfl

theorem unplaced_emptyLink? (place other : Place) (url label : String) :
    unplaced (emptyLink? place url label).toList =
      unplaced (emptyLink? other url label).toList := by
  rw [emptyLink?, emptyLink?]
  split <;> rfl

theorem unplaced_emptyNestedLinks (place other : WidgetPlace) (buttons : List LinkButton) :
    unplaced (emptyNestedLinks place buttons) = unplaced (emptyNestedLinks other buttons) := by
  simp only [emptyNestedLinks, List.filterMap_eq_flatMap_toList, Finding.unplaced_flatMap]
  apply List.flatMap_congr
  rintro ⟨button, index⟩ -
  exact unplaced_emptyLink? _ _ _ _

theorem unplaced_emptyWidgetLinks (place other : WidgetPlace) (body : WidgetBody) :
    unplaced (emptyWidgetLinks place body) = unplaced (emptyWidgetLinks other body) := by
  cases body with
  | button button => exact unplaced_emptyLink? _ _ _ _
  | buttonGroup group => exact unplaced_emptyNestedLinks place other group.buttons
  | meeting meeting => exact unplaced_emptyNestedLinks place other meeting.buttons
  | _ => rfl

end Document

def Widget.findings (place : WidgetPlace) (widget : Widget) : List Finding :=
  (Document.unknown? place widget).toList ++ (Document.badWidth? place widget.body).toList ++
    Document.emptyWidgetLinks place widget.body

/-- What a check says of a widget wherever it stands, the first place say. -/
def Widget.violations (widget : Widget) : List Violation :=
  unplaced (widget.findings ⟨0, 0⟩)

/-! ## Documents -/

namespace Document

def widgets (document : Document) : List Widget :=
  document.sections.flatMap Section.widgets

theorem unplaced_placedWidgets {findingsAt : WidgetPlace → Widget → List Finding}
    (alike : ∀ place other widget,
      unplaced (findingsAt place widget) = unplaced (findingsAt other widget))
    (document : Document) :
    unplaced (document.placedWidgets.flatMap fun placed => findingsAt placed.1 placed.2) =
      document.widgets.flatMap fun widget => unplaced (findingsAt ⟨0, 0⟩ widget) := by
  rw [Finding.unplaced_flatMap, placedWidgets, widgets, List.flatMap_assoc, List.flatMap_assoc]
  apply flatMap_zipIdx
  intro part sectionIndex
  rw [List.flatMap_map]
  apply flatMap_zipIdx
  intro widget widgetIndex
  exact alike _ _ _

theorem unplaced_badColors (document : Document) :
    unplaced document.badColors = document.theme.violations ++
      (document.sections.map Section.borderColor).flatMap borderViolations := by
  rw [badColors, Finding.unplaced_append, List.flatMap_map, Theme.violations]
  congr 1
  rw [List.filterMap_eq_flatMap_toList, Finding.unplaced_flatMap]
  apply flatMap_zipIdx
  intro part sectionIndex
  dsimp only
  rw [borderViolations]
  cases shown? part.borderColor with
  | none => rw [Option.bind_none, Option.bind_none]
  | some value =>
      rw [Option.bind_some, Option.bind_some]
      exact unplaced_notColor? _ _ value

/-- What three of the rules say, they say widget by widget. -/
theorem perm_unplaced_widgets (document : Document) :
    (unplaced document.unknownWidgets ++ unplaced document.badWidths ++
      unplaced document.emptyLinks).Perm (document.widgets.flatMap Widget.violations) := by
  have unknowns : unplaced document.unknownWidgets =
      document.widgets.flatMap fun widget => unplaced (unknown? ⟨0, 0⟩ widget).toList := by
    rw [unknownWidgets, List.filterMap_eq_flatMap_toList]
    exact unplaced_placedWidgets unplaced_unknown? document
  have widths : unplaced document.badWidths =
      document.widgets.flatMap fun widget => unplaced (badWidth? ⟨0, 0⟩ widget.body).toList := by
    rw [badWidths, List.filterMap_eq_flatMap_toList]
    exact unplaced_placedWidgets (fun place other widget =>
      unplaced_badWidth? place other widget.body) document
  have links : unplaced document.emptyLinks =
      document.widgets.flatMap fun widget => unplaced (emptyWidgetLinks ⟨0, 0⟩ widget.body) :=
    unplaced_placedWidgets (fun place other widget =>
      unplaced_emptyWidgetLinks place other widget.body) document
  rw [unknowns, widths, links]
  refine ((List.flatMap_append_perm _ _ _).append_right _).trans
    ((List.flatMap_append_perm _ _ _).trans (.of_eq ?_))
  simp only [← Finding.unplaced_append]
  rfl

theorem unplaced_check (document : Document) :
    document.check.unplaced = unplaced document.unknownWidgets ++
      (unplaced document.badColors ++
        (unplaced document.badWidths ++ unplaced document.emptyLinks)) := by
  simp only [← Finding.unplaced_append, ← List.append_assoc, check, Report.unplaced,
    Report.ofViolations, List.map_map]
  rfl

/-- Apart from the order, a check says what there is to say of the theme, of every border and of
every widget. -/
theorem perm_unplaced_check (document : Document) :
    document.check.unplaced.Perm
      (document.theme.violations ++
        (document.sections.map Section.borderColor).flatMap borderViolations ++
        document.widgets.flatMap Widget.violations) := by
  have inWidgets := document.perm_unplaced_widgets
  rw [List.append_assoc] at inWidgets
  rw [unplaced_check, ← unplaced_badColors]
  exact (List.perm_append_comm_assoc _ _ _).trans (inWidgets.append_left _)

end Document

/-! ## Lesser documents -/

/-- The section has the border of the other, and no widgets but those of the other. -/
structure Section.Lessens (part other : Section) : Prop where
  borderColor : part.borderColor = other.borderColor
  widgets : part.widgets.Subperm other.widgets

theorem Section.Lessens.refl (part : Section) : part.Lessens part :=
  ⟨rfl, .refl _⟩

namespace Document

/-- The document has the theme of the other, and no borders and no widgets but those of the
other. -/
structure Lessens (document other : Document) : Prop where
  theme : document.theme = other.theme
  borders : (document.sections.map Section.borderColor).Subperm
    (other.sections.map Section.borderColor)
  widgets : document.widgets.Subperm other.widgets

namespace Lessens

variable {document other : Document}

theorem of_subperm (theme : document.theme = other.theme)
    (sections : document.sections.Subperm other.sections) : document.Lessens other where
  theme := theme
  borders := by
    rw [List.map_eq_flatMap, List.map_eq_flatMap]
    exact subperm_flatMap sections _
  widgets := subperm_flatMap sections Section.widgets

theorem of_forall₂ (theme : document.theme = other.theme)
    (related : List.Forall₂ Section.Lessens document.sections other.sections) :
    document.Lessens other where
  theme := theme
  borders := by
    have same : document.sections.map Section.borderColor =
        other.sections.map Section.borderColor := by
      rw [← List.forall₂_eq_eq_eq, List.forall₂_map_left_iff, List.forall₂_map_right_iff]
      exact related.imp fun _ _ => Section.Lessens.borderColor
    rw [same]
  widgets := subperm_flatMap_of_forall₂ (related.imp fun _ _ => Section.Lessens.widgets)

theorem unplaced_check (lessens : document.Lessens other) :
    document.check.unplaced.Subperm other.check.unplaced := by
  have borders := subperm_flatMap lessens.borders borderViolations
  have widgets := subperm_flatMap lessens.widgets Widget.violations
  have less := ((List.Subperm.refl other.theme.violations).append borders).append widgets
  have before := document.perm_unplaced_check
  rw [lessens.theme] at before
  exact before.subperm.trans (less.trans other.perm_unplaced_check.symm.subperm)

end Lessens

end Document

end Bulletin
