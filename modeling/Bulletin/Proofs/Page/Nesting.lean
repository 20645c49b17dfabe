import Bulletin.Page.Document
import Bulletin.Proofs.Page.Template
/-!
# Nesting

Every part of a page closes the elements that it opens. A part is made of fixed pieces, which are
scanned as they stand, and of smaller parts between them.
-/

namespace Bulletin

-- Fixed texts are hundreds of characters long.
set_option maxRecDepth 2000

/-! ## The vocabulary of pages -/

namespace Markup

def elements : List Name :=
  ["html", "head", "meta", "title", "link", "body", "div", "h1", "h2", "h3", "h4", "p", "strong",
    "em", "a", "ul", "ol", "li", "hr", "iframe", "img"].map String.toList

def attributeNames : List Name :=
  ["lang", "charset", "name", "content", "rel", "href", "crossorigin", "style", "target", "src",
    "alt", "allowfullscreen", "loading"].map String.toList

def Tag.IsKnown (tag : Tag) : Prop :=
  tag.name ∈ elements ∧ ∀ name ∈ tag.attributes, name ∈ attributeNames

instance (tag : Tag) : Decidable tag.IsKnown :=
  inferInstanceAs (Decidable (_ ∧ _))

end Markup

open Markup

/-! ## Pages that open and close elements -/

namespace Page

/-- The template of the page is scanned from text to text, holds known tags only, and takes the
open elements from `before` to `after`. -/
def Leads (page : Page) (before after : List Name) : Prop :=
  ∃ tags, scanTemplate .text page.template = some (tags, .text) ∧ (∀ tag ∈ tags, tag.IsKnown) ∧
    nest before tags = some after

/-- The same as a computation on a template. -/
def leads (template : Template) (before after : List Name) : Bool :=
  match scanTemplate .text template with
  | some (tags, .text) => tags.all (fun tag => tag.IsKnown) && nest before tags = some after
  | _ => false

namespace Leads

variable {page first second : Page} {before between after : List Name}

theorem of_leads (checked : leads page.template before after = true) :
    page.Leads before after := by
  unfold leads at checked
  split at checked
  case h_1 tags scanned =>
    simp only [Bool.and_eq_true, List.all_eq_true, decide_eq_true_eq] at checked
    exact ⟨tags, scanned, checked.1, checked.2⟩
  case h_2 => cases checked

theorem nil (opened : List Name) : Leads [] opened opened :=
  ⟨[], rfl, fun _ member => (List.not_mem_nil member).elim, rfl⟩

theorem append (left : first.Leads before between) (right : second.Leads between after) :
    Leads (first ++ second) before after := by
  rcases left with ⟨tags, scanned, known, nested⟩
  rcases right with ⟨more, scannedMore, knownMore, nestedMore⟩
  refine ⟨tags ++ more, ?_, ?_, ?_⟩
  · rw [template_append, scanTemplate_append scanned, scannedMore]
    rfl
  · intro tag member
    rcases List.mem_append.mp member with member | member
    · exact known tag member
    · exact knownMore tag member
  · rw [nest_append, nested]
    exact nestedMore

theorem beneath (outer : List Name) (inner : page.Leads before after) :
    page.Leads (before ++ outer) (after ++ outer) := by
  rcases inner with ⟨tags, scanned, known, nested⟩
  exact ⟨tags, scanned, known, nest_beneath outer nested⟩

theorem enclose (opened : List Name) (opening : first.Leads before opened)
    (contents : page.Leads [] []) (closing : second.Leads opened after) :
    Leads (first ++ page ++ second) before after :=
  (opening.append (contents.beneath opened)).append closing

theorem enclose_cons {piece : Piece} (opened : List Name)
    (opening : Leads [piece] before opened) (contents : page.Leads [] [])
    (closing : second.Leads opened after) : Leads (piece :: page ++ second) before after :=
  enclose opened opening contents closing

theorem join_map (separator : String) (page : α → Page) (items : List α)
    (between : Leads [.markup separator] [] []) (balanced : ∀ item, (page item).Leads [] []) :
    Leads (join separator (items.map page)) [] [] := by
  refine join_map_induction (fun page => page.Leads [] []) (nil []) ?_ fun item _ => balanced item
  intro left right balancedLeft balancedRight
  exact balancedLeft.append (between.append balancedRight)

end Leads

end Page

open Page (Leads)

/-! ## Buttons -/

theorem leads_buttonLink (theme : Theme) (text url : String) (variant : ButtonVariant) :
    (buttonLink theme text url variant).Leads [] [] := by
  apply Leads.of_leads
  -- The fixed texts are turned into lists of characters, which the scanner can go through.
  simp only [buttonLink, Page.template_cons, Page.template_nil, Piece.slot, -String.reduceToList]
  repeat rw [String.toList_ofList]
  rfl

theorem leads_buttonRow (theme : Theme) (buttons : List LinkButton) :
    (buttonRow theme buttons).Leads [] [] := by
  have links :=
    Leads.join_map "\n          " (LinkButton.page theme) buttons (.of_leads rfl)
      fun button => leads_buttonLink theme button.text button.url button.variant
  unfold buttonRow
  split
  · exact Leads.nil []
  · apply Leads.enclose_cons ["div".toList] _ links
    all_goals
      apply Leads.of_leads
      simp only [Page.template_cons, Page.template_nil, Piece.slot, String.toList_append,
        -String.reduceAppend, -String.reduceToList]
      repeat rw [String.toList_ofList]
      rfl

/-! ## Text -/

theorem Paragraph.leads_page (paragraph : Paragraph) : paragraph.page.Leads [] [] := by
  unfold Paragraph.page wrapIf
  apply Leads.of_leads
  cases paragraph.italic <;> cases paragraph.bold
  all_goals
    simp only [Bool.false_eq_true, if_true, if_false, Page.template_cons, List.cons_append,
      List.nil_append, Page.template_nil, Piece.slot, -String.reduceToList]
    repeat rw [String.toList_ofList]
    rfl

theorem Heading.leads_page (theme : Theme) (heading : Heading) :
    (heading.page theme).Leads [] [] := by
  unfold Heading.page
  apply Leads.of_leads
  cases heading.level.tag
  all_goals
    simp only [Page.template_cons, Page.template_nil, Piece.slot, -String.reduceToList]
    repeat rw [String.toList_ofList]
    rfl

theorem ListEntry.leads_page (entry : ListEntry) : entry.page.Leads [] [] := by
  apply Leads.of_leads
  simp only [ListEntry.page, Page.template_cons, Page.template_nil, Piece.slot,
    -String.reduceToList]
  repeat rw [String.toList_ofList]
  rfl

theorem ItemList.leads_page (list : ItemList) : list.page.Leads [] [] := by
  have entries :=
    Leads.join_map "\n          " ListEntry.page list.items (.of_leads rfl)
      ListEntry.leads_page
  unfold ItemList.page
  dsimp only
  split
  · exact Leads.enclose_cons ["ol".toList] (.of_leads rfl) entries
      (.of_leads rfl)
  · exact Leads.enclose_cons ["ul".toList] (.of_leads rfl) entries
      (.of_leads rfl)

theorem leads_dividerPage (theme : Theme) : (dividerPage theme).Leads [] [] := by
  apply Leads.of_leads
  simp only [dividerPage, Page.template_cons, Page.template_nil, Piece.slot,
    -String.reduceToList]
  repeat rw [String.toList_ofList]
  rfl

theorem Notice.leads_page (theme : Theme) (notice : Notice) :
    (notice.page theme).Leads [] [] := by
  apply Leads.of_leads
  simp only [Notice.page, Page.template_cons, Page.template_nil, Piece.slot,
    String.toList_append, -String.reduceAppend, -String.reduceToList]
  repeat rw [String.toList_ofList]
  rfl

/-! ## Meetings -/

theorem DetailRow.leads_page (row : DetailRow) : row.page.Leads [] [] := by
  apply Leads.of_leads
  simp only [DetailRow.page, Page.template_cons, Page.template_nil, Piece.slot,
    String.toList_append, -String.reduceAppend, -String.reduceToList]
  repeat rw [String.toList_ofList]
  rfl

theorem Meeting.leads_page (theme : Theme) (meeting : Meeting) :
    (meeting.page theme).Leads [] [] := by
  have details :=
    Leads.join_map "\n        " DetailRow.page meeting.details (.of_leads rfl)
      DetailRow.leads_page
  have buttons := leads_buttonRow theme meeting.buttons
  have gap : Leads [.markup "\n        "] [] [] := .of_leads rfl
  have closing : Leads [.markup "\n      </div>"] ["div".toList] [] :=
    .of_leads rfl
  unfold Meeting.page
  rw [List.append_assoc _ _ (buttonRow theme meeting.buttons),
    List.append_assoc _ (Page.join _ _)]
  apply Leads.enclose ["div".toList] _ (details.append (gap.append buttons)) closing
  apply Leads.of_leads
  simp only [Page.template_cons, Page.template_nil, Piece.slot, String.toList_append,
    -String.reduceAppend, -String.reduceToList]
  repeat rw [String.toList_ofList]
  rfl

/-! ## Media -/

theorem leads_captionPage (caption? : Option String) : (captionPage caption?).Leads [] [] := by
  cases caption? with
  | none => exact Leads.nil []
  | some title =>
      apply Leads.of_leads
      simp only [captionPage, Page.template_cons, Page.template_nil, Piece.slot,
        -String.reduceToList]
      repeat rw [String.toList_ofList]
      rfl

theorem Video.leads_page (video : Video) : video.page.Leads [] [] := by
  unfold Video.page
  apply Leads.enclose_cons ["div".toList] (.of_leads rfl)
    (leads_captionPage video.caption?)
  apply Leads.of_leads
  cases VideoLink.id? video.url
  all_goals
    simp only [Page.template_cons, Page.template_nil, Piece.slot, String.toList_append,
      -String.reduceAppend, -String.reduceToList]
    repeat rw [String.toList_ofList]
    rfl

theorem MapEmbed.leads_page (map : MapEmbed) : map.page.Leads [] [] := by
  unfold MapEmbed.page
  apply Leads.enclose_cons ["div".toList] (.of_leads rfl)
    (leads_captionPage map.caption?)
  apply Leads.of_leads
  simp only [Page.template_cons, Page.template_nil, Piece.slot, String.toList_append,
    -String.reduceAppend, -String.reduceToList]
  repeat rw [String.toList_ofList]
  rfl

theorem Image.leads_page (image : Image) : image.page.Leads [] [] := by
  apply Leads.of_leads
  simp only [Image.page, Page.template_cons, Page.template_nil, Piece.slot,
    String.toList_append, -String.reduceAppend, -String.reduceToList]
  repeat rw [String.toList_ofList]
  rfl

/-! ## Widgets and sections -/

theorem WidgetBody.leads_page (theme : Theme) (body : WidgetBody) :
    (body.page theme).Leads [] [] := by
  cases body with
  | text paragraph => exact paragraph.leads_page
  | heading heading => exact heading.leads_page theme
  | button button => exact leads_buttonLink theme button.text button.url button.variant
  | buttonGroup group => exact leads_buttonRow theme group.buttons
  | list list => exact list.leads_page
  | divider => exact leads_dividerPage theme
  | notice notice => exact notice.leads_page theme
  | meeting meeting => exact meeting.leads_page theme
  | video video => exact video.leads_page
  | map map => exact map.leads_page
  | image image => exact image.leads_page
  | unknown => exact Leads.nil []

theorem Section.leads_page (theme : Theme) (part : Section) :
    (part.page theme).Leads [] [] := by
  have widgets :=
    Leads.join_map "\n\n      " (Widget.page theme) part.widgets (.of_leads rfl)
      fun widget => widget.body.leads_page theme
  apply Leads.enclose ["div".toList] _ widgets (.of_leads rfl)
  apply Leads.of_leads
  simp only [Page.template_cons, Page.template_nil, Piece.slot, String.toList_append,
    -String.reduceAppend, -String.reduceToList]
  repeat rw [String.toList_ofList]
  rfl

/-! ## Header and footer -/

theorem Header.leads_page (theme : Theme) (header : Header) :
    (header.page theme).Leads [] [] := by
  apply Leads.of_leads
  simp only [Header.page, Page.template_cons, Page.template_nil, Piece.slot,
    String.toList_append, -String.reduceAppend, -String.reduceToList]
  repeat rw [String.toList_ofList]
  rfl

theorem Footer.leads_page (theme : Theme) (footer : Footer) :
    (footer.page theme).Leads [] [] := by
  apply Leads.of_leads
  simp only [Footer.page, Page.template_cons, Page.template_nil, Piece.slot,
    String.toList_append, -String.reduceAppend, -String.reduceToList]
  repeat rw [String.toList_ofList]
  rfl

end Bulletin
