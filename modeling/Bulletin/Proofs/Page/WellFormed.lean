import Bulletin.Proofs.Document.Layout
import Bulletin.Proofs.Page.Nesting
import Bulletin.Proofs.Page.PlainStyles
/-!
# Well-formed pages

A page is a doctype and then tags of a fixed vocabulary, properly nested, whatever its document
says and whichever sections and widgets it has.
-/

namespace Bulletin

open Markup Page

/-! ## Whole pages -/

namespace Markup

/-- The tag runs nothing and refers to no style sheet of its page. -/
def Tag.IsInert (tag : Tag) : Prop :=
  tag.name ≠ "script".toList ∧ tag.name ≠ "style".toList ∧
    ∀ name ∈ tag.attributes, name ≠ "class".toList ∧ ¬"on".toList <+: name

theorem Tag.IsKnown.isInert {tag : Tag} (known : tag.IsKnown) : tag.IsInert := by
  have inertElements : ∀ name ∈ elements, name ≠ "script".toList ∧ name ≠ "style".toList := by
    decide
  have inertNames :
      ∀ name ∈ attributeNames, name ≠ "class".toList ∧ ¬"on".toList <+: name := by
    decide
  rcases inertElements tag.name known.1 with ⟨notScript, notStyle⟩
  exact ⟨notScript, notStyle, fun name member => inertNames name (known.2 name member)⟩

structure IsWholePage (tags : List Tag) : Prop where
  known : ∀ tag ∈ tags, tag.IsKnown
  inert : ∀ tag ∈ tags, tag.IsInert
  nested : WellNested tags
  last : tags.getLast? = some (.closing "html".toList)

end Markup

def doctype : String := "<!DOCTYPE html>"

namespace Page

def behind (count : Nat) : Page → Page
  | .markup fixed :: page => .markup (String.ofList (fixed.toList.drop count)) :: page
  | page => page

theorem behind_append (count : Nat) {left : Page} (right : Page) (nonempty : left ≠ []) :
    behind count (left ++ right) = behind count left ++ right := by
  cases left with
  | nil => exact absurd rfl nonempty
  | cons piece left => cases piece <;> rfl

theorem hasPlainStyles_behind {count : Nat} {page : Page} (plain : page.HasPlainStyles) :
    (page.behind count).HasPlainStyles := by
  unfold behind
  split
  · rw [hasPlainStyles_markup] at plain ⊢
    exact plain
  · exact plain

end Page

namespace Document

theorem leads_contents (document : Document) :
    Leads (document.header.page document.theme ++
      [.markup "\n\n  <div style=\"padding: 40px;\">\n    "] ++
      Page.join "\n\n    " (document.sections.map (Section.page document.theme)) ++
      [.markup "\n  </div>\n\n  "] ++ document.footer.page document.theme) [] [] := by
  have sections :=
    Leads.join_map "\n\n    " (Section.page document.theme) document.sections
      (.of_leads rfl) (Section.leads_page document.theme)
  have opening : Leads [.markup "\n\n  <div style=\"padding: 40px;\">\n    "] [] ["div".toList] :=
    .of_leads rfl
  have closing : Leads [.markup "\n  </div>\n\n  "] ["div".toList] [] :=
    .of_leads rfl
  have main := Leads.enclose ["div".toList] opening sections closing
  have header := document.header.leads_page document.theme
  have footer := document.footer.leads_page document.theme
  simpa only [List.append_assoc] using (header.append main).append footer

set_option maxRecDepth 2000 in
theorem leads_openingPage (document : Document) :
    (document.openingPage.behind doctype.length).Leads []
      ["div".toList, "body".toList, "html".toList] := by
  apply Leads.of_leads
  simp only [openingPage, behind, Page.template_cons, Page.template_nil, Piece.slot,
    String.toList_append, String.toList_ofList, -String.reduceAppend, -String.reduceToList]
  repeat rw [String.toList_ofList]
  rfl

theorem leads_behind (document : Document) :
    ∃ contents, document.page.behind doctype.length =
        contents ++ [.markup "\n\n</div>\n\n</body>\n</html>"] ∧
      Leads contents [] ["div".toList, "body".toList, "html".toList] := by
  have contents :=
    (leads_openingPage document).append
      ((leads_contents document).beneath ["div".toList, "body".toList, "html".toList])
  have nonempty : document.openingPage ≠ [] := List.cons_ne_nil _ _
  refine ⟨_, ?_, contents⟩
  simp only [page, List.append_assoc, behind_append _ _ nonempty]

theorem html_eq_doctype_append (document : Document) :
    document.html = doctype ++ (document.page.behind doctype.length).html := by
  have begins : ∃ fixed rest, document.page = .markup fixed :: rest ∧
      fixed.toList.take doctype.length = doctype.toList := by
    refine ⟨_, _, rfl, ?_⟩
    simp only [doctype, String.toList_append, -String.reduceAppend, -String.reduceToList]
    repeat rw [String.toList_ofList]
    rfl
  rcases begins with ⟨fixed, rest, equal, start⟩
  rw [← String.toList_inj, String.toList_append, html, equal, behind, toList_html, toList_html,
    List.flatMap_cons, List.flatMap_cons, ← List.append_assoc, Piece.html, Piece.html,
    String.toList_ofList, ← start, List.take_append_drop]

/-- A page whose styles are plain is a doctype and then well-formed markup, whatever its document
says: every `<` starts a whole tag, and the tags are those of a whole page. -/
theorem wellFormed_html {document : Document} (plain : document.HasPlainStyles) :
    ∃ rest tags, document.html = doctype ++ rest ∧ tags? rest.toList = some tags ∧
      IsWholePage tags := by
  rcases leads_behind document with ⟨contents, equal, leads⟩
  rcases leads with ⟨tags, scanned, known, nested⟩
  let closing : List Tag := ["div", "body", "html"].map fun name => .closing name.toList
  have scannedClosing :
      scanTemplate .text (template [.markup "\n\n</div>\n\n</body>\n</html>"]) =
        some (closing, .text) := rfl
  have scannedPage : scanTemplate .text (document.page.behind doctype.length).template =
      some (tags ++ closing, .text) := by
    rw [equal, template_append, scanTemplate_append scanned, scannedClosing]
    rfl
  have knownPage : ∀ tag ∈ tags ++ closing, tag.IsKnown := by
    rw [List.forall_mem_append]
    exact ⟨known, by decide⟩
  have scannedText :=
    scan_of_scanTemplate (hasPlainStyles_behind (hasPlainStyles_page plain)) scannedPage
  refine ⟨_, tags ++ closing, html_eq_doctype_append document, ?_, knownPage,
    fun tag member => (knownPage tag member).isInert, ?_, ?_⟩
  · rw [tags?, scannedText]
  · rw [WellNested, nest_append, nested]
    rfl
  · rw [List.getLast?_append]
    rfl

theorem wellFormed_html_specimen :
    (specimen "'\"><script>&").HasPlainStyles ∧
      ∃ rest tags, (specimen "'\"><script>&").html = doctype ++ rest ∧
        tags? rest.toList = some tags ∧ IsWholePage tags := by
  have plain : (specimen "'\"><script>&").HasPlainStyles := by
    refine ⟨Theme.isPlain_default, ?_⟩
    intro part member color border
    rw [List.mem_singleton.mp member] at border
    cases border
  exact ⟨plain, wellFormed_html plain⟩

end Document

end Bulletin
