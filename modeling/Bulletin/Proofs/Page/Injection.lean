import Bulletin.Page.Document
import Bulletin.Proofs.Document.Layout
import Bulletin.Proofs.Page.Frame
/-!
# User text adds no markup

The frame of a document's page depends on nothing but the document's layout. So two documents of
one layout have pages with the same markup characters in the same order, whatever they say.
-/

namespace Bulletin

/-- Lists that look the same to one function look the same to every function of what it sees. -/
theorem map_eq_map_of_factors {see : α → β} {render : α → γ}
    (factors : ∀ left right, see left = see right → render left = render right) :
    ∀ {left right : List α}, left.map see = right.map see → left.map render = right.map render
  | [], [], _ => rfl
  | [], _ :: _, same => by cases same
  | _ :: _, [], same => by cases same
  | head :: tail, other :: others, same => by
      rw [List.map_cons, List.map_cons, List.cons.injEq] at same
      rw [List.map_cons, List.map_cons, factors head other same.1,
        map_eq_map_of_factors factors same.2]

theorem frame_join_map {see : α → β} (page : α → Page) (separator : String)
    (factors : ∀ left right, see left = see right → (page left).frame = (page right).frame)
    {left right : List α} (same : left.map see = right.map see) :
    (Page.join separator (left.map page)).frame = (Page.join separator (right.map page)).frame := by
  rw [Page.frame_join, Page.frame_join, List.map_map, List.map_map]
  exact congrArg (Page.join separator) (map_eq_map_of_factors factors same)

theorem frame_join_map_of_length (page : α → Page) (separator : String)
    (constant : ∀ left right, (page left).frame = (page right).frame)
    {left right : List α} (same : left.length = right.length) :
    (Page.join separator (left.map page)).frame = (Page.join separator (right.map page)).frame := by
  have counts : left.map (fun _ => ()) = right.map fun _ => () := by
    rw [List.map_const', List.map_const', same]
  exact frame_join_map page separator (fun first second _ => constant first second) counts

/-! ## Widgets -/

theorem frame_buttonLink (theme : Theme) {left right : ButtonVariant}
    (same : left.tone = right.tone) (text url otherText otherUrl : String) :
    (buttonLink theme text url left).frame = (buttonLink theme otherText otherUrl right).frame := by
  unfold buttonLink ButtonVariant.css
  rw [same]
  rfl

theorem frame_buttonRow (theme : Theme) {left right : List LinkButton}
    (same : left.map LinkButton.tone = right.map LinkButton.tone) :
    (buttonRow theme left).frame = (buttonRow theme right).frame := by
  have links :=
    frame_join_map (LinkButton.page theme) "\n          "
      (fun first second tones => frame_buttonLink theme tones _ _ _ _) same
  have empty : left = [] ↔ right = [] := by
    rw [← List.map_eq_nil_iff (f := LinkButton.tone), same, List.map_eq_nil_iff]
  unfold buttonRow
  split <;> rename_i isEmpty
  · rw [if_pos (empty.mp isEmpty)]
  · rw [if_neg (mt empty.mpr isEmpty)]
    simp [links]

theorem Paragraph.frame_page {left right : Paragraph} (bold : left.bold = right.bold)
    (italic : left.italic = right.italic) : left.page.frame = right.page.frame := by
  unfold Paragraph.page wrapIf
  rw [bold, italic]
  cases right.bold <;> cases right.italic <;> rfl

theorem Heading.frame_page (theme : Theme) {left right : Heading}
    (tag : left.level.tag = right.level.tag) :
    (left.page theme).frame = (right.page theme).frame := by
  unfold Heading.page
  rw [tag]
  cases right.level.tag <;> rfl

theorem ItemList.frame_page {left right : ItemList} (ordered : left.ordered = right.ordered)
    (items : left.items.length = right.items.length) :
    left.page.frame = right.page.frame := by
  have entries :=
    frame_join_map_of_length ListEntry.page "\n          " (fun _ _ => rfl) items
  unfold ItemList.page
  rw [ordered]
  cases right.ordered <;> simp [entries]

theorem Notice.frame_page (theme : Theme) {left right : Notice}
    (tone : left.variant.tone = right.variant.tone) :
    (left.page theme).frame = (right.page theme).frame := by
  unfold Notice.page
  rw [tone]
  rfl

theorem Meeting.frame_page (theme : Theme) {left right : Meeting}
    (details : left.details.length = right.details.length)
    (tones : left.buttons.map LinkButton.tone = right.buttons.map LinkButton.tone) :
    (left.page theme).frame = (right.page theme).frame := by
  have rows :=
    frame_join_map_of_length DetailRow.page "\n        " (fun _ _ => rfl) details
  have buttons := frame_buttonRow theme tones
  simp only [Meeting.page, Page.frame_append, rows, buttons]
  rfl

theorem frame_captionPage {left right : Option String} (same : left.isSome = right.isSome) :
    (captionPage left).frame = (captionPage right).frame := by
  cases left <;> cases right <;> first | rfl | cases same

theorem Video.frame_page {left right : Video}
    (captioned : left.caption?.isSome = right.caption?.isSome)
    (embedded : (VideoLink.id? left.url).isSome = (VideoLink.id? right.url).isSome) :
    left.page.frame = right.page.frame := by
  have captions := frame_captionPage captioned
  unfold Video.page
  cases leftId : VideoLink.id? left.url <;> cases rightId : VideoLink.id? right.url <;>
    simp only [leftId, rightId, Option.isSome_none, Option.isSome_some, reduceCtorEq] at embedded
  all_goals
    simp only [Page.frame_append, Page.frame_cons, captions]
    rfl

theorem MapEmbed.frame_page {left right : MapEmbed}
    (captioned : left.caption?.isSome = right.caption?.isSome) :
    left.page.frame = right.page.frame := by
  have captions := frame_captionPage captioned
  simp only [MapEmbed.page, Page.frame_append, Page.frame_cons, captions]
  rfl

theorem Image.frame_page {left right : Image}
    (width : left.resolvedWidth = right.resolvedWidth) :
    left.page.frame = right.page.frame := by
  unfold Image.page
  rw [width]
  rfl

theorem WidgetBody.frame_page (theme : Theme) {left right : WidgetBody}
    (same : left.layout = right.layout) :
    (left.page theme).frame = (right.page theme).frame := by
  cases left <;> cases right <;> simp only [layout, reduceCtorEq] at same
  case text.text left right =>
      injection same with bold italic
      exact Paragraph.frame_page bold italic
  case heading.heading left right =>
      injection same with tag
      exact Heading.frame_page theme tag
  case button.button left right =>
      injection same with tone
      exact frame_buttonLink theme tone _ _ _ _
  case buttonGroup.buttonGroup left right =>
      injection same with tones
      exact frame_buttonRow theme tones
  case list.list left right =>
      injection same with ordered items
      exact ItemList.frame_page ordered items
  case divider.divider => rfl
  case notice.notice left right =>
      injection same with tone
      exact Notice.frame_page theme tone
  case meeting.meeting left right =>
      injection same with details tones
      exact Meeting.frame_page theme details tones
  case video.video left right =>
      injection same with captioned embedded
      exact Video.frame_page captioned embedded
  case map.map left right =>
      injection same with captioned
      exact MapEmbed.frame_page captioned
  case image.image left right =>
      injection same with width
      exact Image.frame_page width
  case unknown.unknown => rfl

/-! ## Documents -/

theorem Section.frame_page (theme : Theme) {left right : Section}
    (same : left.layout theme = right.layout theme) :
    (left.page theme).frame = (right.page theme).frame := by
  injection same with borderColor widgets
  have contents :=
    frame_join_map (Widget.page theme) "\n\n      "
      (fun first second layouts => WidgetBody.frame_page theme layouts) widgets
  unfold Section.page
  rw [Page.frame_append, Page.frame_append, Page.frame_append, Page.frame_append, contents,
    borderColor]
  rfl

theorem Header.frame_page (theme : Theme) {left right : Header}
    (showGradient : left.showGradient = right.showGradient) :
    (left.page theme).frame = (right.page theme).frame := by
  unfold Header.page Header.backgroundCss
  rw [showGradient]
  rfl

theorem Footer.frame_page (theme : Theme) {left right : Footer}
    (showGradientBorder : left.showGradientBorder = right.showGradientBorder) :
    (left.page theme).frame = (right.page theme).frame := by
  unfold Footer.page Footer.borderCss
  rw [showGradientBorder]
  rfl

namespace Document

theorem frame_openingPage {left right : Document} (theme : left.theme = right.theme) :
    left.openingPage.frame = right.openingPage.frame := by
  unfold openingPage
  rw [theme]
  rfl

theorem frame_page {left right : Document} (same : left.layout = right.layout) :
    left.page.frame = right.page.frame := by
  injection same with theme showGradient showGradientBorder sections
  rw [theme] at sections
  have opening := frame_openingPage theme
  have header := Header.frame_page right.theme showGradient
  have footer := Footer.frame_page right.theme showGradientBorder
  have contents :=
    frame_join_map (Section.page right.theme) "\n\n    "
      (fun first second layouts => Section.frame_page right.theme layouts) sections
  simp only [page, Page.frame_append, theme, opening, header, footer, contents]

/-- No user text adds, removes or moves a markup character: whatever two documents of one layout
say, their pages have the same markup characters in the same order. -/
theorem markupOf_html_of_layout {left right : Document} (same : left.layout = right.layout) :
    Text.markupOf left.html = Text.markupOf right.html :=
  Page.markupOf_html_of_frame (frame_page same)

theorem markupOf_html_specimen :
    (specimen "News").layout = (specimen "'\"><script>&").layout ∧
      Text.markupOf (specimen "News").html = Text.markupOf (specimen "'\"><script>&").html := by
  have same : (specimen "News").layout = (specimen "'\"><script>&").layout := by decide +kernel
  exact ⟨same, markupOf_html_of_layout same⟩

end Document

end Bulletin
