import Bulletin.Proofs.Page.Recovery
/-!
# Pages lose no text

Of two documents of one layout, whose pages have the same pieces in the same places, equal pages
have the same wording: every text that a page shows can be read off it.
-/

namespace Bulletin

/-! ## Joined pages -/

theorem Page.length_of_frame {left right : Page} (same : left.frame = right.frame) :
    left.length = right.length := by
  simpa [Page.frame] using congrArg List.length same

theorem Page.join_injective (separator : String) {left right : List Page}
    (lengths : left.map List.length = right.map List.length)
    (same : join separator left = join separator right) : left = right := by
  induction left generalizing right with
  | nil =>
      rw [List.map_nil, eq_comm, List.map_eq_nil_iff] at lengths
      rw [lengths]
  | cons page left induction =>
      cases right with
      | nil => cases lengths
      | cons other right =>
          rw [List.map_cons, List.map_cons, List.cons.injEq] at lengths
          cases left with
          | nil =>
              cases right with
              | cons => cases lengths.2
              | nil => simpa using same
          | cons next left =>
              cases right with
              | nil => cases lengths.2
              | cons nextOther right =>
                  rw [join_cons_cons, join_cons_cons] at same
                  rcases List.append_inj same lengths.1 with ⟨rfl, rest⟩
                  rw [induction lengths.2 (List.cons.inj rest).2]

/-- Where parts of pages are told from what is seen of their items, the whole is told from its
parts, item by item. -/
theorem map_eq_of_join_map {see : α → β} {page : α → Page} {word : α → γ}
    (frames : ∀ left right, see left = see right → (page left).frame = (page right).frame)
    (words : ∀ left right, see left = see right → page left = page right → word left = word right)
    {separator : String} {left right : List α} (seen : left.map see = right.map see)
    (same : Page.join separator (left.map page) = Page.join separator (right.map page)) :
    left.map word = right.map word := by
  have lengths : left.map (fun item => (page item).length) =
      right.map fun item => (page item).length :=
    map_eq_map_of_factors
      (fun first second equal => Page.length_of_frame (frames first second equal)) seen
  have pages : left.map page = right.map page :=
    Page.join_injective separator (by simpa [Function.comp_def] using lengths) same
  have both : left.map (fun item => (see item, page item)) =
      right.map fun item => (see item, page item) := by
    rw [← List.zip_map', ← List.zip_map', seen, pages]
  refine map_eq_map_of_factors (fun first second equal => ?_) both
  exact words first second (congrArg Prod.fst equal) (congrArg Prod.snd equal)

theorem map_eq_of_join_map_of_length {page : α → Page} {word : α → γ}
    (constant : ∀ left right, (page left).frame = (page right).frame)
    (words : ∀ left right, page left = page right → word left = word right)
    {separator : String} {left right : List α} (counts : left.length = right.length)
    (same : Page.join separator (left.map page) = Page.join separator (right.map page)) :
    left.map word = right.map word := by
  have seen : left.map (fun _ => ()) = right.map fun _ => () := by
    rw [List.map_const', List.map_const', counts]
  exact map_eq_of_join_map (fun first second _ => constant first second)
    (fun first second _ => words first second) seen same

/-! ## Widgets -/

theorem LinkButton.wording_of_page (theme : Theme) {left right : LinkButton}
    (same : left.page theme = right.page theme) : left.wording = right.wording := by
  simp only [LinkButton.page, buttonLink, List.cons.injEq, Piece.text.injEq] at same
  simp only [wording, same]

theorem wording_of_buttonRow (theme : Theme) {left right : List LinkButton}
    (tones : left.map LinkButton.tone = right.map LinkButton.tone)
    (same : buttonRow theme left = buttonRow theme right) :
    left.map LinkButton.wording = right.map LinkButton.wording := by
  have empty : left = [] ↔ right = [] := by
    rw [← List.map_eq_nil_iff (f := LinkButton.tone), tones, List.map_eq_nil_iff]
  unfold buttonRow at same
  by_cases isEmpty : left = []
  · rw [isEmpty, empty.mp isEmpty]
  · rw [if_neg isEmpty, if_neg (mt empty.mpr isEmpty)] at same
    have links := List.append_cancel_right same
    exact map_eq_of_join_map (fun first second tone => frame_buttonLink theme tone _ _ _ _)
      (fun first second _ => LinkButton.wording_of_page theme) tones (List.cons.inj links).2

theorem Paragraph.content_of_page {left right : Paragraph} (bold : left.bold = right.bold)
    (italic : left.italic = right.italic) (same : left.page = right.page) :
    left.content = right.content := by
  unfold Paragraph.page wrapIf at same
  rw [bold, italic] at same
  revert same
  cases right.italic <;> cases right.bold <;> simp

theorem Heading.text_of_page (theme : Theme) {left right : Heading}
    (tag : left.level.tag = right.level.tag) (same : left.page theme = right.page theme) :
    left.text = right.text := by
  unfold Heading.page at same
  rw [tag] at same
  revert same
  cases right.level.tag <;> simp

theorem ItemList.texts_of_page {left right : ItemList} (ordered : left.ordered = right.ordered)
    (items : left.items.length = right.items.length) (same : left.page = right.page) :
    left.items.map ListEntry.text = right.items.map ListEntry.text := by
  have words (first second : ListEntry) (same : first.page = second.page) :
      first.text = second.text := by
    simpa [ListEntry.page] using same
  have joined : Page.join "\n          " (left.items.map ListEntry.page) =
      Page.join "\n          " (right.items.map ListEntry.page) := by
    unfold ItemList.page at same
    rw [ordered] at same
    revert same
    cases right.ordered
    all_goals
      intro same
      exact (List.cons.inj (List.append_cancel_right same)).2
  exact map_eq_of_join_map_of_length (fun _ _ => rfl) words items joined

theorem Meeting.wording_of_page (theme : Theme) {left right : Meeting}
    (details : left.details.length = right.details.length)
    (tones : left.buttons.map LinkButton.tone = right.buttons.map LinkButton.tone)
    (same : left.page theme = right.page theme) :
    left.title = right.title ∧
      left.details.map DetailRow.wording = right.details.map DetailRow.wording ∧
      left.buttons.map LinkButton.wording = right.buttons.map LinkButton.wording := by
  have words (first second : DetailRow) (same : first.page = second.page) :
      first.wording = second.wording := by
    simp only [DetailRow.page, List.cons.injEq, Piece.text.injEq] at same
    simp only [DetailRow.wording, same]
  unfold Meeting.page at same
  have rows := List.append_cancel_right same
  have rowLengths := Page.length_of_frame (frame_buttonRow theme tones)
  rcases List.append_inj' rows rowLengths with ⟨rest, buttons⟩
  have rest := List.append_cancel_right rest
  rcases List.append_inj rest rfl with ⟨title, rest⟩
  refine ⟨?_, ?_, wording_of_buttonRow theme tones buttons⟩
  · simpa using title
  · exact map_eq_of_join_map_of_length (fun _ _ => rfl) words details rest

theorem Video.wording_of_page {left right : Video}
    (captioned : left.caption?.isSome = right.caption?.isSome)
    (embedded : (VideoLink.id? left.url).isSome = (VideoLink.id? right.url).isSome)
    (same : left.page = right.page) :
    left.caption? = right.caption? ∧
      (VideoLink.id? left.url).getD left.url = (VideoLink.id? right.url).getD right.url := by
  unfold Video.page at same
  cases leftId : VideoLink.id? left.url <;> cases rightId : VideoLink.id? right.url <;>
    simp only [leftId, rightId, Option.isSome_none, Option.isSome_some, reduceCtorEq] at embedded
  all_goals
    cases leftCaption : left.caption? <;> cases rightCaption : right.caption? <;>
      simp only [leftCaption, rightCaption, Option.isSome_none, Option.isSome_some,
        reduceCtorEq] at captioned
    all_goals
      simpa [leftId, rightId, leftCaption, rightCaption, captionPage] using same

theorem MapEmbed.wording_of_page {left right : MapEmbed}
    (captioned : left.caption?.isSome = right.caption?.isSome) (same : left.page = right.page) :
    left.caption? = right.caption? ∧ left.embedUrl = right.embedUrl := by
  unfold MapEmbed.page at same
  cases leftCaption : left.caption? <;> cases rightCaption : right.caption? <;>
    simp only [leftCaption, rightCaption, Option.isSome_none, Option.isSome_some,
      reduceCtorEq] at captioned
  all_goals
    simpa [leftCaption, rightCaption, captionPage] using same

theorem WidgetBody.wording_of_page (theme : Theme) {left right : WidgetBody}
    (layout : left.layout = right.layout) (same : left.page theme = right.page theme) :
    left.wording = right.wording := by
  cases left <;> cases right <;> simp only [WidgetBody.layout, reduceCtorEq] at layout
  case text.text left right =>
      injection layout with bold italic
      exact congrArg WidgetWording.text (Paragraph.content_of_page bold italic same)
  case heading.heading left right =>
      injection layout with tag
      exact congrArg WidgetWording.heading (Heading.text_of_page theme tag same)
  case button.button left right =>
      simp only [WidgetBody.page, buttonLink, List.cons.injEq, Piece.text.injEq] at same
      simp only [wording, same]
  case buttonGroup.buttonGroup left right =>
      injection layout with tones
      exact congrArg WidgetWording.buttonGroup (wording_of_buttonRow theme tones same)
  case list.list left right =>
      injection layout with ordered items
      exact congrArg WidgetWording.list (ItemList.texts_of_page ordered items same)
  case divider.divider => rfl
  case notice.notice left right =>
      simp only [WidgetBody.page, Notice.page, List.cons.injEq, Piece.text.injEq] at same
      simp only [wording, same]
  case meeting.meeting left right =>
      injection layout with details tones
      rcases Meeting.wording_of_page theme details tones same with ⟨title, rows, buttons⟩
      simp only [wording, title, rows, buttons]
  case video.video left right =>
      injection layout with captioned embedded
      rcases Video.wording_of_page captioned embedded same with ⟨caption, target⟩
      simp only [wording, caption, target]
  case map.map left right =>
      injection layout with captioned
      rcases MapEmbed.wording_of_page captioned same with ⟨caption, url⟩
      simp only [wording, caption, url]
  case image.image left right =>
      simp only [WidgetBody.page, Image.page, List.cons.injEq, Piece.text.injEq] at same
      simp only [wording, same]
  case unknown.unknown => rfl

/-! ## Documents -/

theorem Section.wording_of_page (theme : Theme) {left right : Section}
    (layout : left.layout theme = right.layout theme)
    (same : left.page theme = right.page theme) : left.wording = right.wording := by
  injection layout with borderColor widgets
  unfold Section.page at same
  rcases List.append_inj (List.append_cancel_right same) rfl with ⟨title, contents⟩
  have words := map_eq_of_join_map
    (fun first second layouts => WidgetBody.frame_page theme layouts)
    (fun first second layouts pages => WidgetBody.wording_of_page theme layouts pages)
    widgets contents
  simp only [List.cons.injEq, Piece.text.injEq] at title
  rw [wording, wording, title.2.2.2.2.2.1]
  exact congrArg _ words

theorem Header.length_page (theme : Theme) (header : Header) : (header.page theme).length = 15 :=
  rfl

namespace Document

theorem length_openingPage (document : Document) : document.openingPage.length = 15 := rfl

variable {left right : Document}

theorem wording_of_page (layout : left.layout = right.layout) (same : left.page = right.page) :
    left.wording = right.wording := by
  injection layout with theme showGradient showGradientBorder sections
  rw [theme] at sections
  unfold page at same
  rw [theme] at same
  have withFooter := List.append_cancel_right same
  rcases List.append_inj' withFooter rfl with ⟨contents, footer⟩
  rcases List.append_inj (List.append_cancel_right contents)
    (by simp only [List.length_append, length_openingPage, Header.length_page])
    with ⟨opening, contents⟩
  have words := map_eq_of_join_map
    (fun first second layouts => Section.frame_page right.theme layouts)
    (fun first second layouts pages => Section.wording_of_page right.theme layouts pages)
    sections contents
  rcases List.append_inj (List.append_cancel_right opening)
    (by simp only [length_openingPage]) with ⟨-, header⟩
  simp only [Header.page, List.cons.injEq, Piece.text.injEq] at header
  simp only [Footer.page, List.cons.injEq, Piece.text.injEq] at footer
  simp only [wording, header, footer, words]

/-- No displayed text is lost: where two documents of one layout have one page, they say the same
in every place of it. -/
theorem wording_of_html (layout : left.layout = right.layout) (html : left.html = right.html) :
    left.wording = right.wording :=
  wording_of_page layout (Page.eq_of_html left.guarded_page (frame_page layout) html)

def relabelled (document : Document) (id : String) : Document :=
  { document with
    sections := document.sections.map fun part =>
      { part with id, widgets := part.widgets.map fun widget => { widget with id } } }

theorem wording_of_html_relabelled :
    specimen "News" ≠ (specimen "News").relabelled "a" ∧
      (specimen "News").layout = ((specimen "News").relabelled "a").layout ∧
      (specimen "News").html = ((specimen "News").relabelled "a").html ∧
      (specimen "News").wording = ((specimen "News").relabelled "a").wording :=
  ⟨by decide, rfl, rfl, wording_of_html rfl rfl⟩

end Document

end Bulletin
