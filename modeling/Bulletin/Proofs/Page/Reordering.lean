import Bulletin.Page.Document
import Bulletin.Proofs.Page.Frame
import Bulletin.Proofs.Text.Bytes
import Mathlib.Data.List.Forall2
/-!
# Other orders

A section shows its widgets one after another, and a page shows its sections one after another, with
nothing but blanks in between. So in another order of the sections, and of the widgets inside them,
a page consists of the same characters.
-/

namespace Bulletin

/-! ## Pages of the same pieces -/

namespace Page

theorem separator_cons_join (separator : String) (page : Page) (pages : List Page) :
    .markup separator :: join separator (page :: pages) =
      (page :: pages).flatMap fun page => .markup separator :: page := by
  induction pages generalizing page with
  | nil => simp
  | cons next pages induction =>
      rw [join_cons_cons, List.flatMap_cons, ← induction next]
      rfl

theorem perm_join {pages others : List Page} (separator : String) (perm : pages.Perm others) :
    (join separator pages).Perm (join separator others) := by
  cases pages with
  | nil => rw [perm.nil_eq]
  | cons page pages =>
      cases others with
      | nil => rw [perm.eq_nil]
      | cons other others =>
          have all := perm.flatMap_right fun page => .markup separator :: page
          rw [← separator_cons_join, ← separator_cons_join] at all
          exact all.cons_inv

theorem perm_join_of_forall₂ {pages others : List Page} (separator : String)
    (related : List.Forall₂ List.Perm pages others) :
    (join separator pages).Perm (join separator others) := by
  induction related with
  | nil => exact .refl _
  | cons perm related induction =>
      cases related with
      | nil => simpa using perm
      | cons next related =>
          rw [join_cons_cons, join_cons_cons]
          exact perm.append (induction.cons _)

theorem perm_html {page other : Page} (perm : page.Perm other) :
    page.html.toList.Perm other.html.toList := by
  rw [toList_html, toList_html]
  exact perm.flatMap_right _

@[simp] theorem html_append (left right : Page) :
    (left ++ right).html = left.html ++ right.html := by
  simp [html]

theorem html_join (separator : String) (pages : List Page) :
    (join separator pages).html = String.intercalate separator (pages.map html) := by
  induction pages with
  | nil => rfl
  | cons page pages induction =>
      cases pages with
      | nil => simp
      | cons next pages =>
          rw [join_cons_cons, html_append, List.map_cons,
            String.intercalate_cons_of_ne_nil (by simp), ← induction, String.append_assoc]
          simp [html, Piece.html]

end Page

/-! ## Lists on a page -/

def Text.isLayout (text : String) : Bool :=
  text.toList.all fun c => c = '\n' || c = ' '

/-- A text that shows a list of items consists of a text for each of them, one after another with
line breaks and spaces in between, inside a frame that is the same for all lists. -/
def Text.ShowsEach (textOf : List α → String) (itemText : α → String) : Prop :=
  ∃ opening gap closing, isLayout gap = true ∧
    ∀ items, textOf items = opening ++ String.intercalate gap (items.map itemText) ++ closing

namespace Page

def ShowsEach (pageOf : List α → Page) (itemPage : α → Page) : Prop :=
  ∃ opening gap closing, Text.isLayout gap = true ∧
    ∀ items, pageOf items = opening ++ join gap (items.map itemPage) ++ closing

variable {pageOf : List α → Page} {itemPage : α → Page}

theorem showsEach {opening closing : Page} (gap : String) (layout : Text.isLayout gap = true)
    (around : ∀ items, pageOf items = opening ++ join gap (items.map itemPage) ++ closing) :
    ShowsEach pageOf itemPage :=
  ⟨opening, gap, closing, layout, around⟩

namespace ShowsEach

theorem perm (shows : ShowsEach pageOf itemPage) {items reordered others : List α}
    (related : List.Forall₂ (fun item other => (itemPage item).Perm (itemPage other)) items
      reordered)
    (perm : reordered.Perm others) : (pageOf items).Perm (pageOf others) := by
  rcases shows with ⟨opening, gap, closing, -, around⟩
  have pages : List.Forall₂ List.Perm (items.map itemPage) (reordered.map itemPage) := by
    rw [List.forall₂_map_left_iff, List.forall₂_map_right_iff]
    exact related
  have inside := (perm_join_of_forall₂ gap pages).trans (perm_join gap (perm.map itemPage))
  rw [around, around]
  exact (inside.append_left opening).append_right closing

theorem html (shows : ShowsEach pageOf itemPage) :
    Text.ShowsEach (fun items => (pageOf items).html) fun item => (itemPage item).html := by
  rcases shows with ⟨opening, gap, closing, layout, around⟩
  refine ⟨opening.html, gap, closing.html, layout, fun items => ?_⟩
  simp only [around, html_append, html_join, List.map_map]
  rfl

end ShowsEach

end Page

theorem Section.showsEach (theme : Theme) (part : Section) :
    Page.ShowsEach (fun widgets => { part with widgets }.page theme) (Widget.page theme) := by
  apply Page.showsEach "\n\n      " (by decide)
  intro widgets
  simp only [Section.page, Section.resolvedBorderColor]
  rfl

theorem Document.showsEach (document : Document) :
    Page.ShowsEach (fun sections => { document with sections }.page)
      (Section.page document.theme) := by
  apply Page.showsEach "\n\n    " (by decide)
  intro sections
  simp only [Document.page, Document.openingPage, List.append_assoc (_ ++ Page.join _ _)]
  rfl

/-! ## Other orders -/

def Section.Reordered (part other : Section) : Prop :=
  ∃ widgets, part.widgets.Perm widgets ∧ other = { part with widgets }

def Document.Reordered (document other : Document) : Prop :=
  ∃ reordered sections, List.Forall₂ Section.Reordered document.sections reordered ∧
    reordered.Perm sections ∧ other = { document with sections }

theorem Section.Reordered.perm_page {part other : Section} (reordered : part.Reordered other)
    (theme : Theme) : (part.page theme).Perm (other.page theme) := by
  rcases reordered with ⟨widgets, perm, rfl⟩
  exact (part.showsEach theme).perm (List.forall₂_same.mpr fun _ _ => .refl _) perm

namespace Document

theorem Reordered.perm_page {document other : Document} (reordered : document.Reordered other) :
    document.page.Perm other.page := by
  rcases reordered with ⟨inner, sections, inSections, perm, rfl⟩
  have related := inSections.imp fun _ _ reordered => reordered.perm_page document.theme
  exact document.showsEach.perm related perm

/-- Another order of the sections, and of the widgets inside them, gives a page of as many
characters and bytes, which are the same in another order. The sections stand on the page, and the
widgets in a section, in the order of their lists and with layout in between; a widget of no known
kind and a group of no buttons are still listed there, as nothing. -/
theorem html_of_reordered (document : Document) :
    (∀ other, document.Reordered other →
      other.html.toList.Perm document.html.toList ∧
        other.html.length = document.html.length ∧
        other.html.utf8ByteSize = document.html.utf8ByteSize) ∧
      Text.ShowsEach (fun sections => { document with sections }.html)
        (fun part => (part.page document.theme).html) ∧
      (∀ theme (part : Section), Text.ShowsEach
        (fun widgets => ({ part with widgets }.page theme).html)
        fun widget => (widget.page theme).html) ∧
      ∀ theme (widget : Widget), widget.body = .unknown ∨ widget.body = .buttonGroup ⟨[]⟩ →
        (widget.page theme).html = "" := by
  refine ⟨fun other reordered => ?_, document.showsEach.html,
    fun theme part => (part.showsEach theme).html, ?_⟩
  · have perm : other.html.toList.Perm document.html.toList :=
      Page.perm_html reordered.perm_page.symm
    refine ⟨perm, ?_, ?_⟩
    · rw [← String.length_toList, ← String.length_toList, perm.length_eq]
    · rw [← Text.byteCount_toList, ← Text.byteCount_toList, Text.byteCount_eq_of_perm perm]
  · rintro theme ⟨id, body⟩ (unknown | empty)
    · cases unknown
      rfl
    · cases empty
      rfl

def errands : Document :=
  { Document.starter with
    sections :=
      [⟨"a", "First", [⟨"p", .text ⟨"Go", none, none⟩⟩, ⟨"u", .unknown⟩,
          ⟨"g", .buttonGroup ⟨[]⟩⟩, ⟨"q", .text ⟨"Come", none, none⟩⟩], none, none⟩,
        ⟨"b", "Second", [], none, none⟩] }

def errandsReversed : Document :=
  { errands with
    sections := errands.sections.reverse.map fun part =>
      { part with widgets := part.widgets.reverse } }

theorem html_of_reordered_errands :
    errandsReversed ≠ errands ∧ errands.Reordered errandsReversed ∧
      errandsReversed.html.toList.Perm errands.html.toList ∧
      errandsReversed.html.length = errands.html.length ∧
      errandsReversed.html.utf8ByteSize = errands.html.utf8ByteSize ∧
      (Widget.page errands.theme ⟨"u", .unknown⟩).html = "" := by
  have reversed (part : Section) : part.Reordered { part with widgets := part.widgets.reverse } :=
    ⟨_, (List.reverse_perm _).symm, rfl⟩
  have reordered : errands.Reordered errandsReversed :=
    ⟨_, _, .cons (reversed _) (.cons (reversed _) .nil), .swap _ _ _, rfl⟩
  rcases html_of_reordered errands with ⟨pages, -, -, nothing⟩
  rcases pages _ reordered with ⟨perm, length, bytes⟩
  exact ⟨by decide, reordered, perm, length, bytes, nothing errands.theme _ (.inl rfl)⟩

end Document

end Bulletin
