import Bulletin.Compiled
import Bulletin.Proofs.Check.Unknown
import Bulletin.Proofs.Page.Reordering
/-!
# Widgets that show nothing

A widget of no known kind, and a group of no buttons, stand on a page as nothing between layout. So
a page differs from the page without them in blanks alone. A check, however, tells the unknown ones
from all other widgets, and refuses a document for them and for nothing else.
-/

namespace Bulletin

/-! ## Texts without blanks -/

namespace Text

def visible (text : String) : List Char :=
  text.toList.filter fun c => !isBlank c

@[simp] theorem visible_empty : visible "" = [] := rfl

@[simp] theorem visible_append (left right : String) :
    visible (left ++ right) = visible left ++ visible right := by
  rw [visible, String.toList_append, List.filter_append]
  rfl

theorem visible_of_isLayout {text : String} (layout : isLayout text = true) :
    visible text = [] := by
  rw [isLayout, List.all_eq_true] at layout
  apply List.filter_eq_nil_iff.mpr
  intro c member
  have isLayout := layout c member
  simp only [Bool.or_eq_true, decide_eq_true_eq] at isLayout
  rcases isLayout with rfl | rfl
  all_goals decide

theorem visible_intercalate {gap : String} (layout : isLayout gap = true) (texts : List String) :
    visible (String.intercalate gap texts) = texts.flatMap visible := by
  induction texts with
  | nil => rfl
  | cons text texts induction =>
      cases texts with
      | nil => simp
      | cons next texts =>
          rw [String.intercalate_cons_of_ne_nil (by simp), visible_append, visible_append,
            visible_of_isLayout layout, induction, List.append_nil]
          rfl

theorem ShowsEach.visible_eq {textOf : List α → String} {itemText : α → String}
    (shows : ShowsEach textOf itemText) {items others : List α}
    (same : (items.flatMap fun item => visible (itemText item)) =
      others.flatMap fun item => visible (itemText item)) :
    visible (textOf items) = visible (textOf others) := by
  rcases shows with ⟨opening, gap, closing, layout, around⟩
  have inside (items : List α) : visible (String.intercalate gap (items.map itemText)) =
      items.flatMap fun item => visible (itemText item) := by
    rw [visible_intercalate layout, List.flatMap_map]
  rw [around, around, visible_append, visible_append, visible_append, visible_append, inside,
    inside, same]

end Text

theorem flatMap_filter_of_nil {keeps : α → Bool} {f : α → List β}
    (nothing : ∀ item, keeps item = false → f item = []) (items : List α) :
    (items.filter keeps).flatMap f = items.flatMap f := by
  induction items with
  | nil => rfl
  | cons item items induction =>
      cases kept : keeps item with
      | true => rw [List.filter_cons_of_pos kept, List.flatMap_cons, List.flatMap_cons, induction]
      | false =>
          have dropped : ¬keeps item = true := by simp [kept]
          rw [List.filter_cons_of_neg dropped, List.flatMap_cons, nothing item kept, induction]
          rfl

/-! ## Silent widgets -/

def WidgetBody.IsSilent (body : WidgetBody) : Prop :=
  body = .unknown ∨ body = .buttonGroup ⟨[]⟩

instance (body : WidgetBody) : Decidable body.IsSilent :=
  inferInstanceAs (Decidable (_ ∨ _))

theorem WidgetBody.IsSilent.page {body : WidgetBody} (silent : body.IsSilent) (theme : Theme) :
    body.page theme = [] := by
  rcases silent with rfl | rfl
  · rfl
  · rfl

def Section.pruned (part : Section) : Section :=
  { part with widgets := part.widgets.filter fun widget => ¬widget.body.IsSilent }

theorem Section.visible_pruned (part : Section) (theme : Theme) :
    Text.visible (part.pruned.page theme).html = Text.visible (part.page theme).html := by
  apply (part.showsEach theme).html.visible_eq
  apply flatMap_filter_of_nil
  intro widget dropped
  have silent : widget.body.IsSilent := by simpa using dropped
  rw [Widget.page, silent.page]
  rfl

namespace Document

def pruned (document : Document) : Document :=
  { document with sections := document.sections.map Section.pruned }

theorem visible_pruned (document : Document) :
    Text.visible document.pruned.html = Text.visible document.html := by
  apply document.showsEach.html.visible_eq
  rw [List.flatMap_map]
  apply List.flatMap_congr
  intro part _
  exact part.visible_pruned document.theme

/-! ## Checks -/

def HasUnknown (document : Document) : Prop :=
  ∃ part ∈ document.sections, ∃ widget ∈ part.widgets, widget.body = .unknown

instance (document : Document) : Decidable document.HasUnknown :=
  inferInstanceAs (Decidable (∃ part ∈ document.sections, ∃ widget ∈ part.widgets, _))

theorem hasErrors_iff_hasUnknown (document : Document) :
    document.check.hasErrors = true ↔ document.HasUnknown := by
  rw [← not_iff_not, Bool.not_eq_true, hasErrors_check_iff, HasUnknown]
  push Not
  rfl

theorem not_hasUnknown_pruned (document : Document) : ¬document.pruned.HasUnknown := by
  rintro ⟨part, isPart, widget, isWidget, unknown⟩
  rcases List.mem_map.mp isPart with ⟨original, -, rfl⟩
  have kept := (List.mem_filter.mp isWidget).2
  exact of_decide_eq_true kept (.inl unknown)

theorem map_html_compile (document : Document) :
    document.compile.map Compiled.html =
      if document.HasUnknown then
        .error (.invalidDocument (document.unknownWidgets.map Finding.violation))
      else .ok document.html := by
  rw [compile, ← errors_check]
  by_cases unknown : document.HasUnknown
  · have errors := document.hasErrors_iff_hasUnknown.mpr unknown
    rw [if_pos unknown, if_pos errors]
    rfl
  · have errors := document.hasErrors_iff_hasUnknown.not.mpr unknown
    rw [if_neg unknown, if_neg errors, Except.map]

/-- Silent widgets leave nothing but blanks on a page. Without them every document passes its
check; with them it is refused if one of them is of no known kind, and passes as it is if not. -/
theorem html_of_pruned (document : Document) :
    Text.visible document.html = Text.visible document.pruned.html ∧
      document.pruned.compile.map Compiled.html = .ok document.pruned.html ∧
      document.compile.map Compiled.html =
        if document.HasUnknown then
          .error (.invalidDocument (document.unknownWidgets.map Finding.violation))
        else .ok document.html := by
  refine ⟨document.visible_pruned.symm, ?_, document.map_html_compile⟩
  rw [map_html_compile, if_neg document.not_hasUnknown_pruned]

end Document

end Bulletin
