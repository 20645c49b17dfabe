import Bulletin.Proofs.Document.Retouching
import Bulletin.Proofs.Page.Injection
/-!
# Only resolved values are shown

The page of a document is told from its layout and its wording. So it is the same, byte for byte,
for all documents that a document can be retouched into.
-/

namespace Bulletin

theorem map_eq_map_of_both {see : α → β} {say : α → γ} {render : α → δ}
    (factors : ∀ left right, see left = see right → say left = say right →
      render left = render right)
    {left right : List α} (seen : left.map see = right.map see)
    (said : left.map say = right.map say) : left.map render = right.map render := by
  have both := congrArg₂ List.zip seen said
  rw [List.zip_map', List.zip_map'] at both
  refine map_eq_map_of_factors (fun first second same => ?_) both
  rw [Prod.mk.injEq] at same
  exact factors first second same.1 same.2

/-! ## Widgets -/

theorem LinkButton.page_of_wording (theme : Theme) {left right : LinkButton}
    (tone : left.tone = right.tone) (wording : left.wording = right.wording) :
    left.page theme = right.page theme := by
  injection wording with text url
  rw [LinkButton.tone, LinkButton.tone] at tone
  simp only [LinkButton.page, buttonLink, ButtonVariant.css, text, url, tone]

theorem buttonRow_of_wording (theme : Theme) {left right : List LinkButton}
    (tones : left.map LinkButton.tone = right.map LinkButton.tone)
    (wordings : left.map LinkButton.wording = right.map LinkButton.wording) :
    buttonRow theme left = buttonRow theme right := by
  have links : left.map (LinkButton.page theme) = right.map (LinkButton.page theme) :=
    map_eq_map_of_both (fun _ _ => LinkButton.page_of_wording theme) tones wordings
  have empty : left = [] ↔ right = [] := by
    rw [← List.map_eq_nil_iff (f := LinkButton.tone), tones, List.map_eq_nil_iff]
  simp only [buttonRow, empty, links]

theorem Video.page_of_wording {left right : Video} (caption : left.caption? = right.caption?)
    (embedded : (VideoLink.id? left.url).isSome = (VideoLink.id? right.url).isSome)
    (target : (VideoLink.id? left.url).getD left.url =
      (VideoLink.id? right.url).getD right.url) : left.page = right.page := by
  rw [Video.page, Video.page, caption]
  cases leftId : VideoLink.id? left.url with
  | none =>
      cases rightId : VideoLink.id? right.url with
      | none =>
          rw [leftId, rightId] at target
          have url : left.url = right.url := target
          rw [url]
      | some id => simp [leftId, rightId] at embedded
  | some id =>
      cases rightId : VideoLink.id? right.url with
      | none => simp [leftId, rightId] at embedded
      | some other =>
          rw [leftId, rightId] at target
          have same : id = other := target
          rw [same]

/-- Bodies of one layout and one wording have one page. -/
theorem WidgetBody.page_of_wording (theme : Theme) {left right : WidgetBody}
    (layout : left.layout = right.layout) (wording : left.wording = right.wording) :
    left.page theme = right.page theme := by
  cases left <;> cases right <;> simp only [WidgetBody.layout, reduceCtorEq] at layout
  case text.text left right =>
      injection layout with bold italic
      injection wording with content
      simp only [WidgetBody.page, Paragraph.page, bold, italic, content]
  case heading.heading left right =>
      injection layout with tag
      injection wording with text
      simp only [WidgetBody.page, Heading.page, tag, text]
  case button.button left right =>
      injection layout with tone
      injection wording with wording
      injection wording with text url
      simp only [WidgetBody.page, buttonLink, ButtonVariant.css, tone, text, url]
  case buttonGroup.buttonGroup left right =>
      injection layout with tones
      injection wording with wordings
      exact buttonRow_of_wording theme tones wordings
  case list.list left right =>
      injection layout with ordered items
      injection wording with texts
      have entries : left.items.map ListEntry.page = right.items.map ListEntry.page :=
        map_eq_map_of_factors (fun first second same => by rw [ListEntry.page, same]; rfl) texts
      simp only [WidgetBody.page, ItemList.page, ordered, entries]
  case divider.divider => rfl
  case notice.notice left right =>
      injection layout with tone
      injection wording with content
      simp only [WidgetBody.page, Notice.page, tone, content]
  case meeting.meeting left right =>
      injection layout with details tones
      injection wording with title rows wordings
      have rowPages : left.details.map DetailRow.page = right.details.map DetailRow.page :=
        map_eq_map_of_factors
          (fun first second same => by
            injection same with key value
            simp only [DetailRow.page, key, value])
          rows
      have buttons := buttonRow_of_wording theme tones wordings
      simp only [WidgetBody.page, Meeting.page, title, rowPages, buttons]
  case video.video left right =>
      injection layout with captioned embedded
      injection wording with caption target
      exact Video.page_of_wording caption embedded target
  case map.map left right =>
      injection wording with caption url
      simp only [WidgetBody.page, MapEmbed.page, caption, url]
  case image.image left right =>
      injection layout with width
      injection wording with url alt
      simp only [WidgetBody.page, Image.page, width, url, alt]
  case unknown.unknown => rfl

/-! ## Documents -/

theorem Section.page_of_wording (theme : Theme) {left right : Section}
    (layout : left.layout theme = right.layout theme) (wording : left.wording = right.wording) :
    left.page theme = right.page theme := by
  injection layout with borderColor layouts
  injection wording with title wordings
  have widgets : left.widgets.map (Widget.page theme) = right.widgets.map (Widget.page theme) :=
    map_eq_map_of_both (fun _ _ => WidgetBody.page_of_wording theme) layouts wordings
  simp only [Section.page, borderColor, title, widgets]

namespace Document

variable {document other : Document}

theorem page_of_wording {left right : Document} (layout : left.layout = right.layout)
    (wording : left.wording = right.wording) : left.page = right.page := by
  injection layout with theme showGradient showGradientBorder layouts
  injection wording with title subtitle footer wordings
  rw [theme] at layouts
  have sections : left.sections.map (Section.page right.theme) =
      right.sections.map (Section.page right.theme) :=
    map_eq_map_of_both (fun _ _ => Section.page_of_wording right.theme) layouts wordings
  simp only [page, openingPage, Header.page, Header.backgroundCss, Footer.page, Footer.borderCss,
    theme, showGradient, showGradientBorder, title, subtitle, footer, sections]

theorem Retouched.page (retouched : document.Retouched other) : other.page = document.page :=
  page_of_wording retouched.layout retouched.wording

/-- No change of a value that resolves to the same is seen on a page, nor are any ids, whichever
widgets are given new ones. -/
theorem html_of_retouched (retouched : document.Retouched other) :
    other.html = document.html ∧
      ∀ rekeyed, other.Rekeyed rekeyed → rekeyed.html = document.html := by
  have retouchedHtml := congrArg Page.html retouched.page
  refine ⟨retouchedHtml, fun rekeyed newIds => ?_⟩
  exact (congrArg Page.html newIds.retouched.page).trans retouchedHtml

/-- A document with a widget of every kind, under one id, in a spelling of what is optional. -/
def spelled (id link : String) (flag : Option Bool) (blank width : Option String)
    (button : ButtonVariant) (notice : NoticeVariant) (level : HeadingLevel) : Document :=
  let bodies : List WidgetBody :=
    [.text ⟨"Hello", flag, flag⟩, .heading ⟨"Today", level⟩, .button ⟨"Join", "/", button⟩,
      .buttonGroup ⟨[⟨id, "Join", "/", button⟩]⟩, .list ⟨[⟨id, "First"⟩, ⟨id, "Second"⟩], flag⟩,
      .divider, .notice ⟨"Note", notice⟩,
      .meeting ⟨"Meeting", [⟨id, "Time", "Noon"⟩], [⟨id, "Join", "/", button⟩]⟩,
      .video ⟨link, blank⟩, .map ⟨"/map", blank⟩, .image ⟨"/photo", blank, width⟩, .unknown]
  { Document.starter with
    sections := [⟨id, "Week", bodies.map fun body => ⟨id, body⟩, blank, flag⟩] }

def tersely : Document :=
  spelled "" "youtu.be/x" none none (some "50%") .primary .info .h3

def wordily : Document :=
  spelled "a" "https://www.youtube.com/watch?v=x&t=1" (some false) (some "") (some " 50% ")
    (.other "bold") (.other "loud") (.other "h1")

theorem html_of_retouched_wordily :
    tersely ≠ wordily ∧ tersely.Retouched wordily ∧ wordily.html = tersely.html ∧
      ∀ rekeyed, wordily.Rekeyed rekeyed → rekeyed.html = tersely.html := by
  have link : VideoLink.id? "youtu.be/x" = some "x" := by decide +kernel
  have longLink : VideoLink.id? "https://www.youtube.com/watch?v=x&t=1" = some "x" := by
    decide +kernel
  have buttons : List.Forall₂ LinkButton.Retouched [⟨"", "Join", "/", .primary⟩]
      [⟨"a", "Join", "/", .other "bold"⟩] := .cons ⟨rfl, rfl, rfl⟩ .nil
  have widgets : List.Forall₂ Widget.Retouched (tersely.sections.flatMap Section.widgets)
      (wordily.sections.flatMap Section.widgets) :=
    .cons (.text rfl rfl rfl) <| .cons (.heading rfl rfl) <| .cons (.button rfl rfl rfl) <|
      .cons (.buttonGroup buttons) <| .cons (.list (.cons ⟨rfl⟩ (.cons ⟨rfl⟩ .nil)) rfl) <|
      .cons .divider <| .cons (.notice rfl rfl) <|
      .cons (.meeting rfl (.cons ⟨rfl, rfl⟩ .nil) buttons) <|
      .cons (.video rfl (.inr ⟨"x", link, longLink⟩)) <| .cons (.map rfl rfl) <|
      .cons (.image rfl rfl (by decide +kernel)) <| .cons .unknown .nil
  have retouched : tersely.Retouched wordily :=
    ⟨rfl, rfl, rfl, .cons ⟨rfl, rfl, widgets⟩ .nil⟩
  exact ⟨by decide, retouched, html_of_retouched retouched⟩

end Document

end Bulletin
