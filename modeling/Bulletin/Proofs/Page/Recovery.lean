import Bulletin.Proofs.Document.Wording
import Bulletin.Proofs.Page.Injection
import Bulletin.Proofs.Text.Escape
import Mathlib.Data.List.TakeWhile
/-!
# User text recovered from pages

In a page, every piece of user text is followed by fixed markup in which a tag or an attribute
ends. Escaped text holds no such character, so the text of a page tells where each piece ends, and
with the frame given, what it is.
-/

namespace Bulletin

/-! ## Guarded pages -/

namespace Page

/-- Every user text is followed by fixed markup with a markup character in it. -/
def Guarded : Page → Prop
  | [] => True
  | .text _ :: .markup fixed :: page =>
      fixed.toList.any Text.isMarkup = true ∧ Guarded (.markup fixed :: page)
  | .text _ :: _ => False
  | .markup _ :: page => Guarded page
  | .style _ :: page => Guarded page

@[simp] theorem guarded_nil : Guarded [] := trivial

@[simp] theorem guarded_markup (fixed : String) (page : Page) :
    Guarded (.markup fixed :: page) ↔ Guarded page := Iff.rfl

@[simp] theorem guarded_style (css : String) (page : Page) :
    Guarded (.style css :: page) ↔ Guarded page := Iff.rfl

@[simp] theorem guarded_text (content fixed : String) (page : Page) :
    Guarded (.text content :: .markup fixed :: page) ↔
      fixed.toList.any Text.isMarkup = true ∧ Guarded page := Iff.rfl

theorem Guarded.append {left right : Page} (guardedLeft : Guarded left)
    (guardedRight : Guarded right) : Guarded (left ++ right) := by
  fun_induction Guarded left with
  | case1 => exact guardedRight
  | case2 _ fixed page induction => exact ⟨guardedLeft.1, induction guardedLeft.2⟩
  | case3 => exact guardedLeft.elim
  | case4 _ page induction => exact induction guardedLeft
  | case5 _ page induction => exact induction guardedLeft

theorem guarded_join_map {page : α → Page} (separator : String) {items : List α}
    (guarded : ∀ item ∈ items, Guarded (page item)) :
    Guarded (join separator (items.map page)) := by
  refine join_map_induction Guarded guarded_nil ?_ guarded
  intro left right guardedLeft guardedRight
  exact guardedLeft.append ((guarded_markup separator right).mpr guardedRight)

end Page

/-- Where two texts without markup characters are followed by such a character, the texts end at
the same place. -/
theorem append_cons_inj_of_markup {left right : List Char}
    (plainLeft : ∀ c ∈ left, Text.isMarkup c = false)
    (plainRight : ∀ c ∈ right, Text.isMarkup c = false) {c d : Char}
    (markupLeft : Text.isMarkup c = true) (markupRight : Text.isMarkup d = true)
    {rest others : List Char} (same : left ++ c :: rest = right ++ d :: others) :
    left = right := by
  have ends {text : List Char} (plain : ∀ c ∈ text, Text.isMarkup c = false) {c : Char}
      (markup : Text.isMarkup c = true) (rest : List Char) :
      (text ++ c :: rest).takeWhile (fun c => !Text.isMarkup c) = text := by
    rw [List.takeWhile_append_of_pos (by simpa using plain),
      List.takeWhile_cons_of_neg (by simp [markup]), List.append_nil]
  rw [← ends plainLeft markupLeft rest, same, ends plainRight markupRight others]

theorem escape_inj_of_markup {left right fixed : String}
    (guarded : fixed.toList.any Text.isMarkup = true) {rest others : List Char}
    (same : (Text.escape left).toList ++ (fixed.toList ++ rest) =
      (Text.escape right).toList ++ (fixed.toList ++ others)) : left = right := by
  rcases List.any_eq_true.mp guarded with ⟨first, member, isMarkup⟩
  -- The markup up to its first markup character is no boundary, but the same on both sides.
  have split := List.takeWhile_append_dropWhile (p := fun c => !Text.isMarkup c) (l := fixed.toList)
  generalize plainPart : fixed.toList.takeWhile (fun c => !Text.isMarkup c) = before at split
  cases behind : fixed.toList.dropWhile (fun c => !Text.isMarkup c) with
  | nil =>
      have plain := List.dropWhile_eq_nil_iff.mp behind first member
      rw [isMarkup] at plain
      cases plain
  | cons c after =>
      have markup : Text.isMarkup c = true := by
        have notPlain := List.head?_dropWhile_not (fun c => !Text.isMarkup c) fixed.toList
        simpa [behind] using notPlain
      have plainBefore : ∀ c ∈ before, Text.isMarkup c = false := by
        intro c member
        rw [← plainPart] at member
        simpa using List.mem_takeWhile_imp member
      rw [← split, behind] at same
      simp only [Text.escape, String.toList_ofList, List.append_assoc, List.cons_append] at same
      rw [← List.append_assoc, ← List.append_assoc] at same
      have plain (text : String) :
          ∀ c ∈ Text.escapeChars text.toList ++ before, Text.isMarkup c = false := by
        intro c member
        rcases List.mem_append.mp member with inText | inMarkup
        · exact Text.isMarkup_of_mem_escapeChars inText
        · exact plainBefore c inMarkup
      have written := append_cons_inj_of_markup (plain left) (plain right) markup markup same
      exact String.toList_injective
        (Text.escapeChars_injective (List.append_cancel_right written))

namespace Page

theorem guarded_text_cons {content : String} {page : Page} :
    Guarded (.text content :: page) ↔
      ∃ fixed rest, page = .markup fixed :: rest ∧ fixed.toList.any Text.isMarkup = true ∧
        Guarded page := by
  constructor
  · intro guarded
    match page with
    | .markup fixed :: rest => exact ⟨fixed, rest, rfl, guarded⟩
    | [] | .text _ :: _ | .style _ :: _ => exact guarded.elim
  · rintro ⟨fixed, rest, rfl, markup, guarded⟩
    exact ⟨markup, guarded⟩

theorem eq_markup_of_frame {page rest : Page} {fixed : String}
    (frame : page.frame = .markup fixed :: rest) : ∃ others, page = .markup fixed :: others := by
  match page with
  | .markup _ :: others =>
      cases frame
      exact ⟨others, rfl⟩
  | [] | .text _ :: _ | .style _ :: _ => cases frame

theorem eq_of_html {left right : Page} (guarded : Guarded left) (frame : left.frame = right.frame)
    (html : left.html = right.html) : left = right := by
  have chars : (left.flatMap fun piece => piece.html.toList) =
      right.flatMap fun piece => piece.html.toList := by
    rw [← toList_html, ← toList_html, html]
  clear html
  induction left generalizing right with
  | nil =>
      cases right with
      | nil => rfl
      | cons => cases frame
  | cons piece left induction =>
      cases right with
      | nil => cases frame
      | cons other right =>
          rw [frame_cons, frame_cons, List.cons.injEq] at frame
          rw [List.flatMap_cons, List.flatMap_cons] at chars
          rcases frame with ⟨first, frame⟩
          cases piece with
          | markup fixed =>
              cases other <;> cases first
              rw [induction guarded frame (List.append_cancel_left chars)]
          | style css =>
              cases other <;> cases first
              rw [induction guarded frame (List.append_cancel_left chars)]
          | text content =>
              cases other <;> cases first
              rename_i otherContent
              rcases guarded_text_cons.mp guarded with ⟨fixed, rest, rfl, markup, guardedRest⟩
              rcases eq_markup_of_frame frame.symm with ⟨others, rfl⟩
              have same : content = otherContent := escape_inj_of_markup markup chars
              subst same
              rw [induction guardedRest frame (List.append_cancel_left chars)]

end Page

open Page (Guarded guarded_nil guarded_markup guarded_style guarded_text guarded_join_map)

/-! ## Widgets -/

theorem guarded_buttonLink (theme : Theme) (text url : String) (variant : ButtonVariant) :
    Guarded (buttonLink theme text url variant) := by
  simp only [buttonLink, guarded_markup, guarded_style, guarded_text, guarded_nil, and_true]
  decide

theorem guarded_buttonRow (theme : Theme) (buttons : List LinkButton) :
    Guarded (buttonRow theme buttons) := by
  have links : Guarded (Page.join "\n          " (buttons.map (LinkButton.page theme))) :=
    guarded_join_map _ fun button _ => guarded_buttonLink theme _ _ _
  unfold buttonRow
  split
  · exact guarded_nil
  · exact links.append guarded_nil

theorem Paragraph.guarded_page (paragraph : Paragraph) : Guarded paragraph.page := by
  unfold Paragraph.page wrapIf
  cases paragraph.italic <;> cases paragraph.bold
  all_goals
    simp only [List.cons_append, List.nil_append, if_true, Bool.false_eq_true, if_false,
      guarded_markup, guarded_text, guarded_nil, and_true]
    decide

theorem Heading.guarded_page (theme : Theme) (heading : Heading) :
    Guarded (heading.page theme) := by
  unfold Heading.page
  split
  all_goals
    simp only [guarded_markup, guarded_style, guarded_text, guarded_nil, and_true]
    decide

theorem ItemList.guarded_page (list : ItemList) : Guarded list.page := by
  have entries : Guarded (Page.join "\n          " (list.items.map ListEntry.page)) :=
    guarded_join_map _ fun entry _ => by
      simp only [ListEntry.page, guarded_markup, guarded_text, guarded_nil, and_true]
      decide
  unfold ItemList.page
  dsimp only
  split
  all_goals exact entries.append guarded_nil

theorem Notice.guarded_page (theme : Theme) (notice : Notice) : Guarded (notice.page theme) := by
  simp only [Notice.page, guarded_markup, guarded_style, guarded_text, guarded_nil, and_true]
  decide

theorem Meeting.guarded_page (theme : Theme) (meeting : Meeting) :
    Guarded (meeting.page theme) := by
  have rows : Guarded (Page.join "\n        " (meeting.details.map DetailRow.page)) :=
    guarded_join_map _ fun row _ => by
      simp only [DetailRow.page, guarded_markup, guarded_text, guarded_nil, and_true]
      decide
  unfold Meeting.page
  refine Guarded.append (Guarded.append (Guarded.append (Guarded.append ?_ rows) ?_)
    (guarded_buttonRow theme _)) ?_
  · simp only [guarded_markup, guarded_style, guarded_text, guarded_nil, and_true]
    decide
  · exact guarded_nil
  · exact guarded_nil

theorem guarded_captionPage (caption? : Option String) : Guarded (captionPage caption?) := by
  cases caption? with
  | none => exact guarded_nil
  | some caption =>
      simp only [captionPage, guarded_markup, guarded_text, guarded_nil, and_true]
      decide

theorem Video.guarded_page (video : Video) : Guarded video.page := by
  unfold Video.page
  refine Guarded.append (guarded_captionPage video.caption?) ?_
  split
  all_goals
    simp only [guarded_markup, guarded_text, guarded_nil, and_true]
    decide

theorem MapEmbed.guarded_page (map : MapEmbed) : Guarded map.page := by
  refine Guarded.append (guarded_captionPage map.caption?) ?_
  simp only [guarded_markup, guarded_text, guarded_nil, and_true]
  decide

theorem Image.guarded_page (image : Image) : Guarded image.page := by
  simp only [Image.page, guarded_markup, guarded_style, guarded_text, guarded_nil, and_true]
  decide

theorem WidgetBody.guarded_page (theme : Theme) (body : WidgetBody) :
    Guarded (body.page theme) := by
  cases body with
  | text body => exact body.guarded_page
  | heading body => exact body.guarded_page theme
  | button body => exact guarded_buttonLink theme _ _ _
  | buttonGroup body => exact guarded_buttonRow theme _
  | list body => exact body.guarded_page
  | divider => exact guarded_nil
  | notice body => exact body.guarded_page theme
  | meeting body => exact body.guarded_page theme
  | video body => exact body.guarded_page
  | map body => exact body.guarded_page
  | image body => exact body.guarded_page
  | unknown => exact guarded_nil

/-! ## Documents -/

theorem Section.guarded_page (theme : Theme) (part : Section) : Guarded (part.page theme) := by
  have widgets : Guarded (Page.join "\n\n      " (part.widgets.map (Widget.page theme))) :=
    guarded_join_map _ fun widget _ => widget.body.guarded_page theme
  refine Guarded.append (Guarded.append ?_ widgets) guarded_nil
  simp only [guarded_markup, guarded_style, guarded_text, guarded_nil, and_true]
  decide

theorem Header.guarded_page (theme : Theme) (header : Header) : Guarded (header.page theme) := by
  simp only [Header.page, guarded_markup, guarded_style, guarded_text, guarded_nil, and_true,
    String.toList_append, List.any_append]
  decide

theorem Footer.guarded_page (theme : Theme) (footer : Footer) : Guarded (footer.page theme) := by
  simp only [Footer.page, guarded_markup, guarded_style, guarded_text, guarded_nil, and_true]
  decide

namespace Document

theorem guarded_openingPage (document : Document) : Guarded document.openingPage := by
  simp only [openingPage, guarded_markup, guarded_style, guarded_text, guarded_nil, and_true,
    String.toList_append, List.any_append]
  decide

theorem guarded_page (document : Document) : Guarded document.page := by
  have sections : Guarded (Page.join "\n\n    "
      (document.sections.map (Section.page document.theme))) :=
    guarded_join_map _ fun part _ => part.guarded_page document.theme
  have opening := document.guarded_openingPage.append (document.header.guarded_page document.theme)
  have footer := document.footer.guarded_page document.theme
  refine ((((opening.append ?_).append sections).append ?_).append footer).append ?_
  all_goals exact guarded_nil

end Document

end Bulletin
