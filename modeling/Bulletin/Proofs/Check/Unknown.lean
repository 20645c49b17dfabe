import Bulletin.Compiled
import Bulletin.Proofs.Check.Findings
import Bulletin.Proofs.Number.Digits
import Mathlib.Data.List.Basic
/-!
# What makes a document invalid

Of all that a check finds only unknown widgets are errors. So the errors of a document are its
unknown widgets, each told once, in the order of their places.
-/

namespace Bulletin

/-! ## Places of widgets -/

theorem Number.digitChars_append_inj {first second : Nat} {firstRest secondRest : List Char}
    (same : digitChars first ++ ']' :: firstRest = digitChars second ++ ']' :: secondRest) :
    first = second ∧ firstRest = secondRest := by
  have taken (value : Nat) (rest : List Char) :
      (digitChars value ++ ']' :: rest).takeWhile Char.isDigit = digitChars value := by
    rw [List.takeWhile_append_of_pos fun c => isDigit_of_mem_digitChars,
      List.takeWhile_cons_of_neg (by decide), List.append_nil]
  have digits : digitChars first = digitChars second := by
    rw [← taken first firstRest, same, taken]
  constructor
  · rw [← digitsValue_digitChars first, digits, digitsValue_digitChars]
  · rw [digits] at same
    exact (List.cons.inj (List.append_cancel_left same)).2

theorem indexText_append_inj {first second : Nat} {firstRest secondRest : String}
    (same : indexText first ++ firstRest = indexText second ++ secondRest) :
    first = second ∧ firstRest = secondRest := by
  have chars := congrArg String.toList same
  simp only [indexText, Number.naturalText, String.toList_append, String.toList_ofList,
    List.append_assoc] at chars
  rcases Number.digitChars_append_inj (List.append_cancel_left chars) with ⟨rfl, rest⟩
  exact ⟨rfl, String.toList_inj.mp rest⟩

theorem indexText_injective : Function.Injective indexText :=
  fun _ _ same => (indexText_append_inj (congrArg (· ++ "") same)).1

theorem indexText_eq (index : Nat) : indexText index = "[" ++ toString index ++ "]" :=
  rfl

namespace WidgetPlace

def Before (first second : WidgetPlace) : Prop :=
  first.sectionIndex < second.sectionIndex ∨
    first.sectionIndex = second.sectionIndex ∧ first.widgetIndex < second.widgetIndex

/-- A place is told apart from what follows it, if that does not start with a bracket. -/
theorem text_append_inj {first second : WidgetPlace} {firstRest secondRest : String}
    (same : first.text ++ firstRest = second.text ++ secondRest) :
    first = second ∧ firstRest = secondRest := by
  rcases first with ⟨firstSection, firstWidget⟩
  rcases second with ⟨secondSection, secondWidget⟩
  simp only [text, String.append_assoc, String.append_right_inj] at same
  rcases indexText_append_inj same with ⟨rfl, inSection⟩
  rcases indexText_append_inj ((String.append_right_inj _).mp inSection) with ⟨rfl, rest⟩
  exact ⟨rfl, rest⟩

theorem text_injective {first second : WidgetPlace} (same : first.text = second.text) :
    first = second :=
  (text_append_inj (congrArg (· ++ "") same)).1

/-- How a place is told: both positions count from zero. -/
def location (place : WidgetPlace) : String :=
  "sections[" ++ toString place.sectionIndex ++ "].widgets[" ++ toString place.widgetIndex ++ "]"

theorem text_eq (place : WidgetPlace) : place.text = place.location := by
  apply String.toList_inj.mp
  simp [text, location, indexText_eq]

end WidgetPlace

namespace Document

def widgetAt? (document : Document) (place : WidgetPlace) : Option Widget :=
  document.sections[place.sectionIndex]?.bind fun part => part.widgets[place.widgetIndex]?

variable {document : Document}

theorem mem_placedWidgets {place : WidgetPlace} {widget : Widget} :
    (place, widget) ∈ document.placedWidgets ↔ document.widgetAt? place = some widget := by
  simp only [placedWidgets, widgetAt?, List.mem_flatMap, List.mem_map, Prod.mk.injEq,
    Option.bind_eq_some_iff]
  constructor
  · rintro ⟨⟨part, sectionIndex⟩, isPart, ⟨found, widgetIndex⟩, isWidget, rfl, rfl⟩
    exact ⟨part, List.mk_mem_zipIdx_iff_getElem?.mp isPart,
      List.mk_mem_zipIdx_iff_getElem?.mp isWidget⟩
  · rintro ⟨part, isPart, isWidget⟩
    exact ⟨(part, place.sectionIndex), List.mk_mem_zipIdx_iff_getElem?.mpr isPart,
      (widget, place.widgetIndex), List.mk_mem_zipIdx_iff_getElem?.mpr isWidget, rfl, rfl⟩

theorem exists_widgetAt?_iff {widget : Widget} :
    (∃ place, document.widgetAt? place = some widget) ↔
      ∃ part ∈ document.sections, widget ∈ part.widgets := by
  simp only [widgetAt?, Option.bind_eq_some_iff, List.mem_iff_getElem?]
  constructor
  · rintro ⟨⟨sectionIndex, widgetIndex⟩, part, isPart, isWidget⟩
    exact ⟨part, ⟨sectionIndex, isPart⟩, widgetIndex, isWidget⟩
  · rintro ⟨part, ⟨sectionIndex, isPart⟩, widgetIndex, isWidget⟩
    exact ⟨⟨sectionIndex, widgetIndex⟩, part, isPart, isWidget⟩

theorem pairwise_zipIdx (list : List α) :
    list.zipIdx.Pairwise fun first second => first.2 < second.2 := by
  apply List.pairwise_map.mp
  rw [List.zipIdx_map_snd]
  exact List.pairwise_lt_range'

theorem pairwise_placedWidgets (document : Document) :
    document.placedWidgets.Pairwise fun first second => first.1.Before second.1 := by
  apply List.pairwise_flatMap.mpr
  constructor
  · rintro ⟨part, sectionIndex⟩ -
    apply List.pairwise_map.mpr
    exact (pairwise_zipIdx part.widgets).imp fun ascends => .inr ⟨rfl, ascends⟩
  · apply (pairwise_zipIdx document.sections).imp
    intro first second ascends placed isPlaced other isOther
    rcases List.mem_map.mp isPlaced with ⟨widget, -, rfl⟩
    rcases List.mem_map.mp isOther with ⟨widget, -, rfl⟩
    exact .inl ascends

/-! ## Errors -/

def placedUnknowns (document : Document) : List (WidgetPlace × Widget) :=
  document.placedWidgets.filter fun placed => placed.2.body = .unknown

theorem mem_placedUnknowns {place : WidgetPlace} {widget : Widget} :
    (place, widget) ∈ document.placedUnknowns ↔
      document.widgetAt? place = some widget ∧ widget.body = .unknown := by
  rw [placedUnknowns, List.mem_filter, mem_placedWidgets, decide_eq_true_iff]

theorem unknownWidgets_eq (document : Document) :
    document.unknownWidgets =
      document.placedUnknowns.map fun (place, widget) => .unknownWidget place widget.id := by
  rw [unknownWidgets, placedUnknowns, ← List.filterMap_eq_map, List.filterMap_filter]
  apply List.filterMap_congr
  rintro ⟨place, widget⟩ -
  simp

theorem severity_badColors {finding : Finding} (found : finding ∈ document.badColors) :
    finding.severity ≠ .error := by
  rcases List.mem_append.mp found with inTheme | inSection
  · rcases List.mem_filterMap.mp inTheme with ⟨color, -, isBad⟩
    rw [(notColor?_eq_some.mp isBad).2]
    nofun
  · rcases List.mem_filterMap.mp inSection with ⟨⟨part, index⟩, -, shown⟩
    rcases Option.bind_eq_some_iff.mp shown with ⟨value, -, isBad⟩
    rw [(notColor?_eq_some.mp isBad).2]
    nofun

theorem severity_badWidths {finding : Finding} (found : finding ∈ document.badWidths) :
    finding.severity ≠ .error := by
  rcases List.mem_filterMap.mp found with ⟨⟨place, widget⟩, -, isBad⟩
  rcases badWidth?_eq_some.mp isBad with ⟨image, width, -, -, -, -, rfl⟩
  nofun

theorem severity_emptyNestedLinks {place : WidgetPlace} {buttons : List LinkButton}
    {finding : Finding} (found : finding ∈ emptyNestedLinks place buttons) :
    finding.severity ≠ .error := by
  rcases mem_emptyNestedLinks.mp found with ⟨index, button, -, -, rfl⟩
  nofun

theorem severity_emptyLinks {finding : Finding} (found : finding ∈ document.emptyLinks) :
    finding.severity ≠ .error := by
  rcases List.mem_flatMap.mp found with ⟨⟨place, widget⟩, -, inWidget⟩
  simp only [emptyWidgetLinks] at inWidget
  split at inWidget
  · rw [(emptyLink?_eq_some.mp (Option.mem_toList.mp inWidget)).2]
    nofun
  · exact severity_emptyNestedLinks inWidget
  · exact severity_emptyNestedLinks inWidget
  · cases inWidget

theorem errors_check (document : Document) :
    document.check.errors = document.unknownWidgets.map Finding.violation := by
  have dropped {findings : List Finding}
      (harmless : ∀ finding ∈ findings, finding.severity ≠ .error) :
      (findings.map Finding.violation).filter Violation.isError = [] := by
    simpa [Violation.isError, Finding.violation] using harmless
  have kept : (document.unknownWidgets.map Finding.violation).filter Violation.isError =
      document.unknownWidgets.map Finding.violation := by
    rw [unknownWidgets_eq, List.map_map, List.filter_eq_self]
    intro violation found
    rcases List.mem_map.mp found with ⟨placed, -, rfl⟩
    rfl
  rw [check, Report.errors, Report.ofViolations]
  simp only [findings, List.map_append, List.filter_append, kept, List.append_nil,
    dropped fun _ => severity_badColors, dropped fun _ => severity_badWidths,
    dropped fun _ => severity_emptyLinks]

theorem valid_check (document : Document) :
    document.check.valid = !document.check.hasErrors := by
  simp only [check, Report.hasErrors, Report.errors, Report.ofViolations, Bool.not_not]
  induction document.findings.map Finding.violation with
  | nil => rfl
  | cons violation violations induction =>
      cases isError : violation.isError <;> simp [isError, induction]

theorem hasErrors_check_iff :
    document.check.hasErrors = false ↔
      ∀ part ∈ document.sections, ∀ widget ∈ part.widgets, widget.body ≠ .unknown := by
  have none : document.check.hasErrors = false ↔ document.placedUnknowns = [] := by
    rw [Report.hasErrors, errors_check, unknownWidgets_eq]
    simp
  rw [none, List.eq_nil_iff_forall_not_mem]
  constructor
  · intro absent part isPart widget isWidget unknown
    rcases exists_widgetAt?_iff.mpr ⟨part, isPart, isWidget⟩ with ⟨place, placed⟩
    exact absent (place, widget) (mem_placedUnknowns.mpr ⟨placed, unknown⟩)
  · rintro known ⟨place, widget⟩ member
    rcases mem_placedUnknowns.mp member with ⟨placed, unknown⟩
    rcases exists_widgetAt?_iff.mp ⟨place, placed⟩ with ⟨part, isPart, isWidget⟩
    exact known part isPart widget isWidget unknown

end Document

end Bulletin
