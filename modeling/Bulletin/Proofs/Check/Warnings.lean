import Bulletin.Page.Widget
import Bulletin.Proofs.Check.Faults
import Bulletin.Proofs.Color.Shades
/-!
# What a warning says

A check warns of colors that have no shades and of widths that images do not get, and of nothing
else. So where it does not warn, a color of the theme has a shade for every amount, and an image has
the width that was asked for.
-/

namespace Bulletin

/-! ## Widths of images -/

theorem Page.html_attributes (opening first between second before css behind : String) :
    Page.html [.markup opening, .text first, .markup between, .text second, .markup before,
        .style css, .markup behind] =
      opening ++ (Text.escape first ++ (between ++ (Text.escape second ++
        (before ++ (css ++ behind))))) := by
  simp only [Page.html, List.map_cons, List.map_nil, String.join_cons, String.join_nil,
    String.append_empty, Piece.html]

namespace Image

/-- The width that is asked for: what is written, without the blanks around it, and full width where
nothing is. -/
def askedWidth (image : Image) : String :=
  match image.width with
  | none => fullWidth
  | some width => if width = "" then fullWidth else Text.trim width

def sized (image : Image) (width : String) : String :=
  "<div style=\"margin: 20px 0; text-align: center;\">\n        <img src=\"" ++
    (Text.escape image.url ++ ("\" alt=\"" ++ (Text.escape image.altText ++
      ("\" style=\"max-width: " ++ (width ++
        ("; height: auto; border-radius: 8px; box-shadow: 0 4px 15px " ++
          "rgba(0, 0, 0, 0.1);\">\n      </div>"))))))

theorem sized_injective (image : Image) : Function.Injective image.sized := by
  intro first second same
  have behindOpening := (String.append_right_inj _).mp same
  have behindUrl := (String.append_right_inj _).mp behindOpening
  have behindQuote := (String.append_right_inj _).mp behindUrl
  have behindText := (String.append_right_inj _).mp behindQuote
  have behindProperty := (String.append_right_inj _).mp behindText
  exact (String.append_left_inj _).mp behindProperty

theorem html_page (image : Image) : image.page.html = image.sized image.resolvedWidth :=
  Page.html_attributes ..

theorem html_page_eq_sized_iff {image : Image} {width : String} :
    image.page.html = image.sized width ↔ width = image.resolvedWidth := by
  rw [html_page, image.sized_injective.eq_iff, eq_comm]

theorem resolvedWidth_eq (image : Image) :
    image.resolvedWidth =
      if image.askedWidth ∈ widths then image.askedWidth else fullWidth := by
  have full : fullWidth ∈ widths := List.mem_cons_self
  rcases image with ⟨url, alt, width⟩
  cases width with
  | none => exact (if_pos full).symm
  | some width =>
      by_cases empty : width = ""
      · subst empty
        exact (if_pos full).symm
      · have shown : shown? (some width) = some width := shown?_eq_some.mpr ⟨rfl, empty⟩
        simp only [resolvedWidth, requestedWidth?, shown, askedWidth, if_neg empty,
          List.contains_iff_mem]

end Image

def Theme.colors (theme : Theme) : List (String × String) :=
  [("theme.primaryColor", theme.primaryColor), ("theme.secondaryColor", theme.secondaryColor),
    ("theme.accentColor", theme.accentColor), ("theme.backgroundColor", theme.backgroundColor),
    ("theme.textColor", theme.textColor)]

theorem Theme.mem_colors {theme : Theme} {location value : String} :
    (location, value) ∈ theme.colors ↔ ∃ color : ThemeColor,
      location = (Place.themeColor color).location ∧ value = color.value theme := by
  constructor
  · intro isColor
    simp only [colors, List.mem_cons, List.not_mem_nil, or_false, Prod.mk.injEq] at isColor
    rcases isColor with isThere | isThere | isThere | isThere | isThere
    · exact ⟨.primary, isThere⟩
    · exact ⟨.secondary, isThere⟩
    · exact ⟨.accent, isThere⟩
    · exact ⟨.background, isThere⟩
    · exact ⟨.text, isThere⟩
  · rintro ⟨color, rfl, rfl⟩
    cases color <;> simp [colors, Place.location, ThemeColor.value]

namespace Document

variable {document : Document}

/-! ## Reports -/

def Reports (document : Document) (rule location : String) : Prop :=
  ∃ violation ∈ document.check.violations,
    violation.rule = rule ∧ violation.location = location

theorem reports_iff {rule : Rule} {place : Place} :
    document.Reports rule.name place.location ↔ document.Breaks rule place := by
  rw [← exists_finding_iff]
  constructor
  · rintro ⟨violation, reported, sameRule, sameLocation⟩
    rcases List.mem_map.mp reported with ⟨finding, found, rfl⟩
    have isRule : finding.broken = rule :=
      Rule.name_injective (finding.rule_eq.symm.trans sameRule)
    have isPlace : finding.place = place :=
      Place.location_injective (finding.place.text_eq.symm.trans sameLocation)
    exact ⟨finding, found, congrArg₂ Fault.mk isRule isPlace⟩
  · rintro ⟨finding, found, isFault⟩
    rcases Fault.mk.inj isFault with ⟨rfl, rfl⟩
    exact ⟨finding.violation, List.mem_map_of_mem found, finding.rule_eq, finding.place.text_eq⟩

theorem reports_color_iff {location value : String}
    (isColor : (location, value) ∈ document.theme.colors) :
    document.Reports "color_format" location ↔ Rgb.parse? value = none := by
  rcases Theme.mem_colors.mp isColor with ⟨color, rfl, rfl⟩
  have reports : document.Reports Rule.colorFormat.name (Place.themeColor color).location ↔ _ :=
    reports_iff
  exact reports.trans breaks_themeColor_iff

theorem reports_width_iff {place : WidgetPlace} {id : String} {image : Image}
    (isThere : document.widgetAt? place = some ⟨id, .image image⟩) :
    document.Reports "image_width" place.location ↔ image.askedWidth ∉ Image.widths := by
  have full : Image.fullWidth ∈ Image.widths := List.mem_cons_self
  have reports : document.Reports Rule.imageWidth.name (Place.widget place).location ↔ _ :=
    reports_iff
  refine reports.trans ?_
  constructor
  · intro breaks
    cases breaks with
    | imageWidth otherThere isWidth nonempty unsupported =>
        cases isThere.symm.trans otherThere
        simpa only [Image.askedWidth, isWidth, if_neg nonempty, Image.widths, Image.fullWidth]
          using unsupported
  · intro unsupported
    unfold Image.askedWidth at unsupported
    split at unsupported
    case h_1 => exact absurd full unsupported
    case h_2 width isWidth =>
      split at unsupported
      case isTrue => exact absurd full unsupported
      case isFalse nonempty => exact .imageWidth isThere isWidth nonempty unsupported

/-! ## What is reported and what is shown -/

/-- A check reports a color of the theme exactly where it has no shades, and where it does not,
every shade of it is a color. It reports the width of an image where the page shows the image in
full width though another width is asked for, and where it does not, the page shows the width that
is. -/
theorem warnings_truthful (document : Document) :
    (∀ location value, (location, value) ∈ document.theme.colors →
      (document.Reports "color_format" location ↔ Color.LacksShades value) ∧
      (¬ document.Reports "color_format" location →
        ∀ amount, Color.IsSixDigits (Color.shade value amount))) ∧
    ∀ place id image, document.widgetAt? place = some ⟨id, .image image⟩ →
      (document.Reports "image_width" place.location →
        image.askedWidth ≠ "100%" ∧
          ∀ width, image.page.html = image.sized width ↔ width = "100%") ∧
      (¬ document.Reports "image_width" place.location →
        ∀ width, image.page.html = image.sized width ↔ width = image.askedWidth) := by
  constructor
  · intro location value isColor
    rw [reports_color_iff isColor, Color.lacksShades_iff]
    exact ⟨.rfl, Color.isSixDigits_shade⟩
  · intro place id image isThere
    rw [reports_width_iff isThere]
    constructor
    · intro unsupported
      refine ⟨?_, fun width => ?_⟩
      · rintro isFull
        exact unsupported (isFull ▸ List.mem_cons_self)
      · rw [Image.html_page_eq_sized_iff, Image.resolvedWidth_eq, if_neg unsupported]
        rfl
    · intro supported width
      rw [Image.html_page_eq_sized_iff, Image.resolvedWidth_eq, if_pos (not_not.mp supported)]

/-- A document with one color that is named and not spelled, and with a supported width behind one
that is not. -/
def gallery : Document :=
  { Document.starter with
    theme := { Theme.default with primaryColor := "navy" }
    sections :=
      [⟨"s", "Gallery",
        [⟨"v", .image ⟨"v.png", none, some "60%"⟩⟩, ⟨"w", .image ⟨"w.png", none, some " 50% "⟩⟩],
        none, none⟩] }

theorem warnings_truthful_gallery :
    Color.LacksShades "navy" ∧
      (∀ amount, Color.IsSixDigits (Color.shade "#BA0C2F" amount)) ∧
      gallery.Reports "image_width" "sections[0].widgets[0]" ∧
      (∀ width, (Image.mk "v.png" none (some "60%")).page.html =
        (Image.mk "v.png" none (some "60%")).sized width ↔ width = "100%") ∧
      ∀ width, (Image.mk "w.png" none (some " 50% ")).page.html =
        (Image.mk "w.png" none (some " 50% ")).sized width ↔ width = "50%" := by
  rcases warnings_truthful gallery with ⟨colors, widths⟩
  have isPrimary : ("theme.primaryColor", "navy") ∈ gallery.theme.colors := by decide
  have isAccent : ("theme.accentColor", "#BA0C2F") ∈ gallery.theme.colors := by decide
  have named : gallery.Reports "color_format" "theme.primaryColor" :=
    (reports_color_iff isPrimary).mpr (by decide)
  have spelled : ¬ gallery.Reports "color_format" "theme.accentColor" :=
    (reports_color_iff isAccent).not.mpr (by decide)
  have first : gallery.widgetAt? ⟨0, 0⟩ = some ⟨"v", .image _⟩ := rfl
  have second : gallery.widgetAt? ⟨0, 1⟩ = some ⟨"w", .image _⟩ := rfl
  have unsupported : gallery.Reports "image_width" "sections[0].widgets[0]" :=
    (reports_width_iff first).mpr (by decide)
  have supported : ¬ gallery.Reports "image_width" "sections[0].widgets[1]" :=
    (reports_width_iff second).not.mpr (by decide)
  exact ⟨(colors _ _ isPrimary).1.mp named, (colors _ _ isAccent).2 spelled, unsupported,
    ((widths _ _ _ first).1 unsupported).2, (widths _ _ _ second).2 supported⟩

end Document

end Bulletin
