import Bulletin.Proofs.Page.Frame
import Bulletin.Proofs.Page.Tags
/-!
# Templates

The template of a page is its fixed markup with slots for styles and for user text. A scan of the
template, which never looks into a slot, is a scan of the page, as long as the styles hold no
character that ends a value or starts a tag.
-/

namespace Bulletin

inductive Slot where
  | markup (chars : List Char)
  | style
  | text
deriving DecidableEq, Repr

def Piece.slot : Piece → Slot
  | .markup fixed => .markup fixed.toList
  | .style _ => .style
  | .text _ => .text

abbrev Template := List Slot

def Page.template (page : Page) : Template :=
  page.map Piece.slot

namespace Page

@[simp] theorem template_nil : template [] = [] := rfl

@[simp] theorem template_cons (piece : Piece) (page : Page) :
    template (piece :: page) = piece.slot :: page.template := rfl

@[simp] theorem template_append (left right : Page) :
    template (left ++ right) = left.template ++ right.template :=
  List.map_append

end Page

/-! ## Plain text -/

namespace Text

def IsPlain (text : String) : Prop :=
  ∀ c ∈ text.toList, c ≠ '<' ∧ c ≠ '>' ∧ c ≠ '"'

theorem isPlain_of_not_isMarkup {text : String}
    (unmarked : ∀ c ∈ text.toList, isMarkup c = false) : IsPlain text := by
  intro c member
  have unmarkedAt := unmarked c member
  simp only [isMarkup, Bool.or_eq_false_iff, decide_eq_false_iff_not] at unmarkedAt
  exact ⟨unmarkedAt.1.1.1, unmarkedAt.1.1.2, unmarkedAt.1.2⟩

theorem isPlain_escape (text : String) : IsPlain (escape text) :=
  isPlain_of_not_isMarkup fun _ => isMarkup_of_mem_escape

end Text

def Page.HasPlainStyles (page : Page) : Prop :=
  ∀ css, Piece.style css ∈ page → Text.IsPlain css

/-! ## Scans of templates -/

namespace Markup

/-- Styles may stand in values only, and text in values and between tags. -/
def scanSlot : Mode → Slot → Option (List Tag × Mode)
  | mode, .markup chars => scan mode chars
  | .value tag attributes, .style => some ([], .value tag attributes)
  | .value tag attributes, .text => some ([], .value tag attributes)
  | .text, .text => some ([], .text)
  | _, _ => none

def scanTemplate : Mode → Template → Option (List Tag × Mode)
  | mode, [] => some ([], mode)
  | mode, slot :: template =>
      match scanSlot mode slot with
      | none => none
      | some (found, mode) =>
          (scanTemplate mode template).map fun (tags, mode) => (found ++ tags, mode)

theorem scanTemplate_append {mode behind : Mode} {left : Template} {tags : List Tag}
    (scanned : scanTemplate mode left = some (tags, behind)) (right : Template) :
    scanTemplate mode (left ++ right) =
      (scanTemplate behind right).map fun (more, mode) => (tags ++ more, mode) := by
  induction left generalizing mode tags with
  | nil =>
      cases scanned
      simp
  | cons slot left induction =>
      rw [scanTemplate] at scanned
      rw [List.cons_append, scanTemplate]
      cases inSlot : scanSlot mode slot with
      | none => simp [inSlot] at scanned
      | some result =>
          simp only [inSlot, Option.map_eq_some_iff, Prod.mk.injEq] at scanned ⊢
          rcases scanned with ⟨⟨found, reached⟩, rest, rfl, rfl⟩
          simp only [induction rest, Option.map_map, Function.comp_def, List.append_assoc]

theorem scan_value_of_isPlain {tag : Name} {attributes : List Name} {text : String}
    (plain : Text.IsPlain text) :
    scan (.value tag attributes) text.toList = some ([], .value tag attributes) := by
  apply scan_of_steady
  intro c member
  rcases plain c member with ⟨notLess, _, notQuote⟩
  rw [step, if_neg notQuote, if_neg notLess]

theorem scan_text_of_isPlain {text : String} (plain : Text.IsPlain text) :
    scan .text text.toList = some ([], .text) := by
  apply scan_of_steady
  intro c member
  rw [step, if_neg (plain c member).1]

theorem scan_of_scanSlot {mode : Mode} {piece : Piece} {result : List Tag × Mode}
    (plain : ∀ css, piece = .style css → Text.IsPlain css)
    (scanned : scanSlot mode piece.slot = some result) :
    scan mode piece.html.toList = some result := by
  cases piece with
  | markup fixed => exact scanned
  | style css =>
      cases mode <;> first | cases scanned
      exact scan_value_of_isPlain (plain css rfl)
  | text content =>
      cases mode <;> first | cases scanned
      · exact scan_text_of_isPlain (Text.isPlain_escape content)
      · exact scan_value_of_isPlain (Text.isPlain_escape content)

theorem scan_of_scanTemplate {mode : Mode} {page : Page} {result : List Tag × Mode}
    (plain : page.HasPlainStyles) (scanned : scanTemplate mode page.template = some result) :
    scan mode page.html.toList = some result := by
  rw [Page.toList_html]
  induction page generalizing mode result with
  | nil => exact scanned
  | cons piece page induction =>
      rw [Page.template_cons, scanTemplate] at scanned
      cases inSlot : scanSlot mode piece.slot with
      | none => simp [inSlot] at scanned
      | some found =>
          simp only [inSlot, Option.map_eq_some_iff] at scanned
          rcases scanned with ⟨more, inRest, joined⟩
          have inPiece := scan_of_scanSlot
            (fun css isStyle => plain css (isStyle ▸ List.mem_cons_self)) inSlot
          have inPage := induction
            (fun css member => plain css (List.mem_cons_of_mem piece member)) inRest
          rw [List.flatMap_cons, scan_append inPiece, inPage, ← joined]
          rfl

end Markup

end Bulletin
