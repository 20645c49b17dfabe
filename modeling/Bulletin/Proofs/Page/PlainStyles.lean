import Bulletin.Page.Document
import Bulletin.Proofs.Number.Hexadecimal
import Bulletin.Proofs.Page.Template
/-!
# Plain styles

The style sheet text of a page is derived from the colors, the font and the corners of its theme.
Where these are plain, so is everything derived from them.
-/

namespace Bulletin

namespace Text

theorem isPlain_append {left right : String} :
    IsPlain (left ++ right) ↔ IsPlain left ∧ IsPlain right := by
  simp only [IsPlain, String.toList_append, List.forall_mem_append]

theorem isPlain_ofList {chars : List Char} :
    IsPlain (String.ofList chars) ↔ ∀ c ∈ chars, c ≠ '<' ∧ c ≠ '>' ∧ c ≠ '"' := by
  rw [IsPlain, String.toList_ofList]

theorem isPlain_of_all {chars : List Char}
    (checked : chars.all (fun c => c ≠ '<' && c ≠ '>' && c ≠ '"') = true) :
    IsPlain (String.ofList chars) := by
  rw [isPlain_ofList]
  intro c member
  have plain := List.all_eq_true.mp checked c member
  simp only [Bool.and_eq_true, decide_eq_true_eq] at plain
  exact ⟨plain.1.1, plain.1.2, plain.2⟩

theorem isPlain_trim {text : String} (plain : IsPlain text) : IsPlain (trim text) := by
  rw [trim, isPlain_ofList]
  intro c member
  rw [trimChars, List.mem_reverse] at member
  have inReversed := (List.dropWhile_sublist isBlank).mem member
  exact plain c ((List.dropWhile_sublist isBlank).mem (List.mem_reverse.mp inReversed))

theorem isPlain_of_isAlphanum {c : Char} (alphanumeric : c.isAlphanum = true) :
    c ≠ '<' ∧ c ≠ '>' ∧ c ≠ '"' := by
  refine ⟨?_, ?_, ?_⟩
  all_goals
    rintro rfl
    exact absurd alphanumeric (by decide)

end Text

open Text (IsPlain isPlain_append isPlain_ofList isPlain_of_all isPlain_trim isPlain_of_isAlphanum)

/-! ## Colors -/

namespace Number

theorem isAlphanum_of_mem_hexDigits {count value : Nat} {c : Char}
    (member : c ∈ hexDigits count value) : c.isAlphanum = true := by
  have single : ∀ digit : Fin 16, (Nat.digitChar digit.val).isAlphanum = true := by decide
  rcases exists_of_mem_hexDigits member with ⟨digit, rfl⟩
  exact single digit

theorem isPlain_naturalText (value : Nat) : IsPlain (naturalText value) := by
  rw [naturalText, isPlain_ofList]
  intro c member
  have digit := Nat.isDigit_of_mem_toDigits (by decide) (by decide) member
  exact isPlain_of_isAlphanum (by rw [Char.isAlphanum, digit, Bool.or_true])

end Number

theorem Rgb.isPlain_spelling (color : Rgb) : IsPlain color.spelling := by
  rw [spelling, isPlain_ofList]
  intro c member
  rw [List.mem_cons, List.mem_flatMap] at member
  rcases member with rfl | ⟨channel, _, member⟩
  · decide
  · exact isPlain_of_isAlphanum (Number.isAlphanum_of_mem_hexDigits member)

namespace Color

variable {color : String}

theorem isPlain_shade (plain : IsPlain color) (amount : Int) : IsPlain (shade color amount) := by
  unfold shade
  split
  · exact Rgb.isPlain_spelling _
  · exact isPlain_trim plain

theorem isPlain_translucent (plain : IsPlain color) : IsPlain (translucent color .shadow) := by
  have opacity : IsPlain (Opacity.text .shadow) := isPlain_of_all (by decide +kernel)
  have comma : IsPlain ", " := isPlain_of_all (by decide)
  unfold translucent
  split
  · simp only [isPlain_append, Number.isPlain_naturalText, opacity, comma, and_true]
    exact ⟨isPlain_of_all (by decide), isPlain_of_all (by decide)⟩
  · exact isPlain_trim plain

end Color

/-! ## Themes -/

structure Theme.IsPlain (theme : Theme) : Prop where
  primaryColor : Text.IsPlain theme.primaryColor
  secondaryColor : Text.IsPlain theme.secondaryColor
  accentColor : Text.IsPlain theme.accentColor
  backgroundColor : Text.IsPlain theme.backgroundColor
  textColor : Text.IsPlain theme.textColor
  fontFamily : Text.IsPlain theme.fontFamily
  borderRadius : Text.IsPlain theme.borderRadius

theorem Theme.isPlain_default : Theme.default.IsPlain := by
  constructor
  all_goals exact isPlain_of_all (by decide)

section Styles

variable {theme : Theme}

theorem isPlain_filledButtonCss {base color textColor : String} (lift : Int)
    (plainBase : IsPlain base) (plainColor : IsPlain color) (plainText : IsPlain textColor) :
    IsPlain (filledButtonCss base color lift textColor) := by
  have shade := Color.isPlain_shade plainColor lift
  have shadow := Color.isPlain_translucent plainColor
  simp only [filledButtonCss, isPlain_append, plainBase, plainColor, plainText, shade, shadow,
    true_and, and_true]
  and_intros
  all_goals exact isPlain_of_all (by decide)

theorem ButtonTone.isPlain_css (plain : theme.IsPlain) (tone : ButtonTone) :
    IsPlain (tone.css theme) := by
  have light : IsPlain "#fff" := isPlain_of_all (by decide)
  have dark : IsPlain "#333" := isPlain_of_all (by decide)
  unfold css
  extract_lets base
  have plainBase : IsPlain base := by
    simp only [base, isPlain_append, plain.fontFamily, and_true, -String.reduceAppend]
    and_intros
    all_goals exact isPlain_of_all (by decide)
  cases tone with
  | primary => exact isPlain_filledButtonCss 30 plainBase plain.primaryColor light
  | secondary => exact isPlain_filledButtonCss 20 plainBase plain.secondaryColor dark
  | accent => exact isPlain_filledButtonCss 20 plainBase plain.accentColor light
  | outline =>
      simp only [isPlain_append, plainBase, plain.primaryColor, true_and, and_true]
      and_intros
      all_goals exact isPlain_of_all (by decide)

theorem Header.isPlain_backgroundCss (plain : theme.IsPlain) (header : Header) :
    IsPlain (header.backgroundCss theme) := by
  have shade := Color.isPlain_shade plain.primaryColor 30
  unfold backgroundCss
  split
  all_goals
    simp only [isPlain_append, plain.primaryColor, shade, and_true]
    and_intros
    all_goals exact isPlain_of_all (by decide)

theorem Footer.isPlain_borderCss (plain : theme.IsPlain) (footer : Footer) :
    IsPlain (footer.borderCss theme) := by
  unfold borderCss
  split
  all_goals
    simp only [isPlain_append, plain.primaryColor, plain.secondaryColor, plain.accentColor,
      and_true]
    and_intros
    all_goals exact isPlain_of_all (by decide)

end Styles

/-! ## Pages -/

namespace Page

variable {page left right : Page}

theorem hasPlainStyles_nil : HasPlainStyles [] :=
  fun _ member => (List.not_mem_nil member).elim

theorem hasPlainStyles_markup {fixed : String} :
    HasPlainStyles (.markup fixed :: page) ↔ page.HasPlainStyles := by
  simp [HasPlainStyles]

theorem hasPlainStyles_text {content : String} :
    HasPlainStyles (.text content :: page) ↔ page.HasPlainStyles := by
  simp [HasPlainStyles]

theorem hasPlainStyles_style {css : String} :
    HasPlainStyles (.style css :: page) ↔ IsPlain css ∧ page.HasPlainStyles := by
  simp [HasPlainStyles]

theorem hasPlainStyles_append :
    HasPlainStyles (left ++ right) ↔ left.HasPlainStyles ∧ right.HasPlainStyles := by
  simp only [HasPlainStyles, List.mem_append, or_imp, forall_and]

theorem hasPlainStyles_join_map (separator : String) (render : α → Page) (items : List α)
    (plain : ∀ item ∈ items, (render item).HasPlainStyles) :
    HasPlainStyles (join separator (items.map render)) := by
  refine join_map_induction HasPlainStyles hasPlainStyles_nil ?_ plain
  intro left right plainLeft plainRight
  exact hasPlainStyles_append.mpr ⟨plainLeft, hasPlainStyles_markup.mpr plainRight⟩

end Page

open Page

section Widgets

variable {theme : Theme} (plain : theme.IsPlain)
include plain

theorem hasPlainStyles_buttonLink (text url : String) (variant : ButtonVariant) :
    (buttonLink theme text url variant).HasPlainStyles := by
  simp only [buttonLink, hasPlainStyles_markup, hasPlainStyles_text, hasPlainStyles_style]
  exact ⟨variant.tone.isPlain_css plain, hasPlainStyles_nil⟩

theorem hasPlainStyles_buttonRow (buttons : List LinkButton) :
    (buttonRow theme buttons).HasPlainStyles := by
  have links :=
    hasPlainStyles_join_map "\n          " (LinkButton.page theme) buttons fun button _ =>
      hasPlainStyles_buttonLink plain button.text button.url button.variant
  unfold buttonRow
  split
  · exact hasPlainStyles_nil
  · simp only [List.cons_append, hasPlainStyles_markup, hasPlainStyles_append]
    exact ⟨links, hasPlainStyles_nil⟩

theorem Heading.hasPlainStyles_page (heading : Heading) :
    (heading.page theme).HasPlainStyles := by
  unfold Heading.page
  split
  all_goals
    simp only [hasPlainStyles_markup, hasPlainStyles_text, hasPlainStyles_style]
    exact ⟨plain.primaryColor, hasPlainStyles_nil⟩

omit plain in
theorem Paragraph.hasPlainStyles_page (paragraph : Paragraph) :
    paragraph.page.HasPlainStyles := by
  unfold Paragraph.page wrapIf
  cases paragraph.italic <;> cases paragraph.bold
  all_goals
    simp [hasPlainStyles_markup, hasPlainStyles_text, hasPlainStyles_nil]

omit plain in
theorem ItemList.hasPlainStyles_page (list : ItemList) : list.page.HasPlainStyles := by
  have entries :=
    hasPlainStyles_join_map "\n          " ListEntry.page list.items fun entry _ => by
      simp only [ListEntry.page, hasPlainStyles_markup, hasPlainStyles_text, hasPlainStyles_nil]
  unfold ItemList.page
  dsimp only
  split
  all_goals
    simp only [List.cons_append, hasPlainStyles_markup, hasPlainStyles_append]
    exact ⟨entries, hasPlainStyles_nil⟩

theorem NoticeTone.isPlain_palette (tone : NoticeTone) :
    IsPlain (tone.palette theme).background ∧ IsPlain (tone.palette theme).border ∧
      IsPlain (tone.palette theme).text := by
  cases tone with
  | info =>
      exact ⟨isPlain_of_all (by decide), plain.primaryColor, isPlain_of_all (by decide)⟩
  | warning =>
      exact ⟨isPlain_of_all (by decide), plain.secondaryColor, isPlain_of_all (by decide)⟩
  | success =>
      exact ⟨isPlain_of_all (by decide), isPlain_of_all (by decide),
        isPlain_of_all (by decide)⟩
  | danger =>
      exact ⟨isPlain_of_all (by decide), plain.accentColor, isPlain_of_all (by decide)⟩

theorem Notice.hasPlainStyles_page (notice : Notice) : (notice.page theme).HasPlainStyles := by
  have ⟨background, border, text⟩ := notice.variant.tone.isPlain_palette plain
  simp only [Notice.page, hasPlainStyles_markup, hasPlainStyles_text, hasPlainStyles_style]
  exact ⟨background, border, text, hasPlainStyles_nil⟩

theorem Meeting.hasPlainStyles_page (meeting : Meeting) :
    (meeting.page theme).HasPlainStyles := by
  have details :=
    hasPlainStyles_join_map "\n        " DetailRow.page meeting.details fun row _ => by
      simp only [DetailRow.page, hasPlainStyles_markup, hasPlainStyles_text, hasPlainStyles_nil]
  have buttons := hasPlainStyles_buttonRow plain meeting.buttons
  simp only [Meeting.page, hasPlainStyles_markup, hasPlainStyles_text, hasPlainStyles_style,
    hasPlainStyles_append, hasPlainStyles_nil, and_true]
  exact ⟨⟨⟨plain.primaryColor, plain.primaryColor⟩, details⟩, buttons⟩

omit plain in
theorem hasPlainStyles_captionPage (caption? : Option String) :
    (captionPage caption?).HasPlainStyles := by
  cases caption? <;>
    simp only [captionPage, hasPlainStyles_markup, hasPlainStyles_text, hasPlainStyles_nil]

omit plain in
theorem Video.hasPlainStyles_page (video : Video) : video.page.HasPlainStyles := by
  unfold Video.page
  split
  all_goals
    simp only [List.cons_append, hasPlainStyles_markup, hasPlainStyles_text,
      hasPlainStyles_append, hasPlainStyles_nil, and_true]
    exact hasPlainStyles_captionPage video.caption?

omit plain in
theorem MapEmbed.hasPlainStyles_page (map : MapEmbed) : map.page.HasPlainStyles := by
  simp only [MapEmbed.page, List.cons_append, hasPlainStyles_markup, hasPlainStyles_text,
    hasPlainStyles_append, hasPlainStyles_nil, and_true]
  exact hasPlainStyles_captionPage map.caption?

omit plain in
theorem Image.isPlain_resolvedWidth (image : Image) : IsPlain image.resolvedWidth := by
  have supported : ∀ width ∈ widths, IsPlain width := by
    intro width member
    rw [widths, fullWidth] at member
    simp only [List.mem_cons, List.not_mem_nil, or_false] at member
    rcases member with rfl | rfl | rfl | rfl
    all_goals exact isPlain_of_all (by decide)
  unfold resolvedWidth
  split
  · split
    · exact supported _ (List.contains_iff_mem.mp ‹_›)
    · exact supported fullWidth List.mem_cons_self
  · exact supported fullWidth List.mem_cons_self

omit plain in
theorem Image.hasPlainStyles_page (image : Image) : image.page.HasPlainStyles := by
  simp only [Image.page, hasPlainStyles_markup, hasPlainStyles_text, hasPlainStyles_style,
    hasPlainStyles_nil, and_true]
  exact image.isPlain_resolvedWidth

theorem WidgetBody.hasPlainStyles_page (body : WidgetBody) :
    (body.page theme).HasPlainStyles := by
  cases body with
  | text paragraph => exact paragraph.hasPlainStyles_page
  | heading heading => exact heading.hasPlainStyles_page plain
  | button button =>
      exact hasPlainStyles_buttonLink plain button.text button.url button.variant
  | buttonGroup group => exact hasPlainStyles_buttonRow plain group.buttons
  | list list => exact list.hasPlainStyles_page
  | divider =>
      simp only [page, dividerPage, hasPlainStyles_markup, hasPlainStyles_style]
      exact ⟨plain.secondaryColor, hasPlainStyles_nil⟩
  | notice notice => exact notice.hasPlainStyles_page plain
  | meeting meeting => exact meeting.hasPlainStyles_page plain
  | video video => exact video.hasPlainStyles_page
  | map map => exact map.hasPlainStyles_page
  | image image => exact image.hasPlainStyles_page
  | unknown => exact hasPlainStyles_nil

/-! ## Documents -/

theorem Section.isPlain_resolvedBorderColor (part : Section)
    (plainBorder : ∀ color ∈ part.borderColor, IsPlain color) :
    IsPlain (part.resolvedBorderColor theme) := by
  unfold resolvedBorderColor shown?
  cases kept : part.borderColor.filter fun text => text ≠ "" with
  | none => exact plain.secondaryColor
  | some color => exact plainBorder color (Option.filter_eq_some_iff.mp kept).1

theorem Section.hasPlainStyles_page (part : Section)
    (plainBorder : ∀ color ∈ part.borderColor, IsPlain color) :
    (part.page theme).HasPlainStyles := by
  have widgets :=
    hasPlainStyles_join_map "\n\n      " (Widget.page theme) part.widgets fun widget _ =>
      widget.body.hasPlainStyles_page plain
  have border := part.isPlain_resolvedBorderColor plain plainBorder
  simp only [Section.page, hasPlainStyles_markup, hasPlainStyles_text, hasPlainStyles_style,
    hasPlainStyles_append, hasPlainStyles_nil, and_true]
  exact ⟨⟨plain.primaryColor, border⟩, widgets⟩

theorem Header.hasPlainStyles_page (header : Header) : (header.page theme).HasPlainStyles := by
  simp only [Header.page, hasPlainStyles_markup, hasPlainStyles_text, hasPlainStyles_style,
    hasPlainStyles_nil, and_true]
  exact ⟨header.isPlain_backgroundCss plain, plain.secondaryColor, plain.accentColor,
    plain.secondaryColor, plain.secondaryColor⟩

theorem Footer.hasPlainStyles_page (footer : Footer) : (footer.page theme).HasPlainStyles := by
  simp only [Footer.page, hasPlainStyles_markup, hasPlainStyles_text, hasPlainStyles_style,
    hasPlainStyles_nil, and_true]
  exact footer.isPlain_borderCss plain

end Widgets

namespace Document

/-- The theme and the border colors of the sections are plain. Nothing is asked of what the
document says. -/
structure HasPlainStyles (document : Document) : Prop where
  theme : document.theme.IsPlain
  borders : ∀ part ∈ document.sections, ∀ color ∈ part.borderColor, IsPlain color

variable {document : Document} (plain : document.HasPlainStyles)
include plain

theorem hasPlainStyles_openingPage : document.openingPage.HasPlainStyles := by
  have shade := Color.isPlain_shade plain.theme.primaryColor 40
  simp only [openingPage, hasPlainStyles_markup, hasPlainStyles_text, hasPlainStyles_style,
    hasPlainStyles_nil, and_true]
  exact ⟨plain.theme.fontFamily, plain.theme.primaryColor, shade, plain.theme.textColor,
    plain.theme.backgroundColor, plain.theme.borderRadius⟩

theorem hasPlainStyles_page : document.page.HasPlainStyles := by
  have sections :=
    hasPlainStyles_join_map "\n\n    " (Section.page document.theme) document.sections
      fun part member => part.hasPlainStyles_page plain.theme (plain.borders part member)
  simp only [page, hasPlainStyles_append, hasPlainStyles_markup, hasPlainStyles_nil, and_true]
  exact ⟨⟨⟨hasPlainStyles_openingPage plain, document.header.hasPlainStyles_page plain.theme⟩,
    sections⟩, document.footer.hasPlainStyles_page plain.theme⟩

end Document

end Bulletin
