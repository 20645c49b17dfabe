import Bulletin.Check.Rules
import Bulletin.Proofs.Text.Blank
/-!
# What a rule finds in one place

Each rule finds something where it is broken, and nothing else.
-/

namespace Bulletin

theorem shown?_eq_some {text? : Option String} {text : String} :
    shown? text? = some text ↔ text? = some text ∧ text ≠ "" := by
  rw [shown?, Option.filter_eq_some_iff, decide_eq_true_eq]

namespace Document

variable {finding : Finding}

theorem notColor?_eq_some {place : Place} {value : String} :
    notColor? place value = some finding ↔
      Rgb.parse? value = none ∧ finding = .notColor place value := by
  rw [notColor?]
  cases Rgb.parse? value <;> simp [eq_comm]

theorem badWidth?_eq_some {place : WidgetPlace} {body : WidgetBody} :
    badWidth? place body = some finding ↔ ∃ image width, body = .image image ∧
      image.width = some width ∧ width ≠ "" ∧ Text.trim width ∉ Image.widths ∧
      finding = .unsupportedWidth place width := by
  cases body with
  | image image =>
      simp only [badWidth?, WidgetBody.image.injEq, exists_and_left, exists_eq_left']
      cases shown : image.requestedWidth? with
      | none =>
          simp only [reduceCtorEq, false_iff, not_exists]
          rintro width ⟨isWidth, nonempty, -⟩
          cases shown.symm.trans (shown?_eq_some.mpr ⟨isWidth, nonempty⟩)
      | some width =>
          rcases shown?_eq_some.mp shown with ⟨isWidth, nonempty⟩
          simp [isWidth, nonempty, eq_comm]
  | _ => simp [badWidth?]

theorem emptyLink?_eq_some {place : Place} {url label : String} :
    emptyLink? place url label = some finding ↔
      Text.trim url = "" ∧ finding = .emptyLink place label := by
  rw [emptyLink?, Text.trim_eq_empty]
  cases Text.isAllBlank url <;> simp [eq_comm]

theorem mem_emptyNestedLinks {place : WidgetPlace} {buttons : List LinkButton} :
    finding ∈ emptyNestedLinks place buttons ↔ ∃ index button, buttons[index]? = some button ∧
      Text.trim button.url = "" ∧ finding = .emptyLink (.nestedButton place index) button.text := by
  simp only [emptyNestedLinks, List.mem_filterMap, emptyLink?_eq_some]
  constructor
  · rintro ⟨⟨button, index⟩, isButton, blank⟩
    exact ⟨index, button, List.mk_mem_zipIdx_iff_getElem?.mp isButton, blank⟩
  · rintro ⟨index, button, isButton, blank⟩
    exact ⟨(button, index), List.mk_mem_zipIdx_iff_getElem?.mpr isButton, blank⟩

end Document

end Bulletin
