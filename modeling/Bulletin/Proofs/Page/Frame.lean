import Bulletin.Page.Widget
import Bulletin.Proofs.Text.Escape
/-!
# Joined pages and frames

Pages are joined one after another, with the same fixed markup between each two. The frame of a page
is the page with its user text taken out. User text adds no markup character, so a page has those of
its frame.
-/

namespace Bulletin

/-! ## Joined pages -/

namespace Page

@[simp] theorem join_singleton (separator : String) (page : Page) :
    join separator [page] = page := by
  simp [join]

@[simp] theorem join_cons_cons (separator : String) (page next : Page) (pages : List Page) :
    join separator (page :: next :: pages) =
      page ++ .markup separator :: join separator (next :: pages) := by
  simp [join]

/-- What holds of no page and of each page, and of two pages with the separator between them if of
both, holds of all of them joined. -/
theorem join_map_induction (holds : Page → Prop) {page : α → Page} {separator : String}
    {items : List α} (nil : holds [])
    (between : ∀ left right, holds left → holds right → holds (left ++ .markup separator :: right))
    (each : ∀ item ∈ items, holds (page item)) : holds (join separator (items.map page)) := by
  induction items with
  | nil => exact nil
  | cons item items induction =>
      have first := each item List.mem_cons_self
      have rest := induction fun other member => each other (List.mem_cons_of_mem item member)
      cases items with
      | nil => simpa using first
      | cons next items =>
          rw [List.map_cons, List.map_cons, join_cons_cons]
          exact between _ _ first rest

end Page

/-! ## Frames -/

def Piece.frame : Piece → Piece
  | .markup fixed => .markup fixed
  | .style css => .style css
  | .text _ => .text ""

theorem Piece.markupOf_frame (piece : Piece) :
    Text.markupOf piece.frame.html = Text.markupOf piece.html := by
  cases piece with
  | markup fixed => rfl
  | style css => rfl
  | text content => simp only [frame, html, Text.markupOf_escape]

namespace Page

def frame (page : Page) : Page :=
  page.map Piece.frame

@[simp] theorem frame_nil : frame [] = [] := rfl

@[simp] theorem frame_cons (piece : Piece) (page : Page) :
    frame (piece :: page) = piece.frame :: page.frame := rfl

@[simp] theorem frame_append (left right : Page) :
    frame (left ++ right) = left.frame ++ right.frame :=
  List.map_append

theorem frame_join (separator : String) (pages : List Page) :
    (join separator pages).frame = join separator (pages.map frame) := by
  induction pages with
  | nil => rfl
  | cons page pages induction =>
      cases pages with
      | nil => simp
      | cons next pages =>
          rw [join_cons_cons, frame_append, frame_cons, induction]
          rfl

theorem toList_html (page : Page) :
    page.html.toList = page.flatMap fun piece => piece.html.toList := by
  simp [html, String.toList_join, List.flatMap_map]

theorem markupOf_html (page : Page) :
    Text.markupOf page.html = page.flatMap fun piece => Text.markupOf piece.html := by
  rw [Text.markupOf, toList_html, List.filter_flatMap]
  rfl

theorem markupOf_html_frame (page : Page) :
    Text.markupOf page.frame.html = Text.markupOf page.html := by
  rw [markupOf_html, markupOf_html, frame, List.flatMap_map]
  simp only [Piece.markupOf_frame]

theorem markupOf_html_of_frame {left right : Page} (same : left.frame = right.frame) :
    Text.markupOf left.html = Text.markupOf right.html := by
  rw [← markupOf_html_frame left, same, markupOf_html_frame right]

end Page

end Bulletin
