import Bulletin.Proofs.Color.Shades
import Bulletin.Proofs.Color.Spelling
import Mathlib.Data.List.Forall2
/-!
# Shades of shades

A shade is made channel by channel, and a channel stops at the ends of its range. So shading keeps
the order of amounts, and two shades one after the other are one by both amounts together, as long
as both are lighter or both are darker: a channel that has stopped stays where it is.
-/

namespace Bulletin

/-! ## Channels -/

namespace Channel

theorem val_shift (channel : Channel) (amount : Int) :
    ((channel.shift amount).val : Int) = max 0 (min 255 (channel.val + amount)) := by
  simp only [shift, clamp]
  omega

theorem shift_le_shift (channel : Channel) {amount more : Int} (le : amount ≤ more) :
    channel.shift amount ≤ channel.shift more := by
  have first := channel.val_shift amount
  have second := channel.val_shift more
  rw [Fin.le_def]
  omega

theorem shift_shift (channel : Channel) {amount more : Int}
    (oneWay : 0 ≤ amount ∧ 0 ≤ more ∨ amount ≤ 0 ∧ more ≤ 0) :
    (channel.shift amount).shift more = channel.shift (amount + more) := by
  have first := channel.val_shift amount
  have second := (channel.shift amount).val_shift more
  have together := channel.val_shift (amount + more)
  have inRange := channel.isLt
  apply Fin.ext
  rcases oneWay with ⟨lighter, lighterStill⟩ | ⟨darker, darkerStill⟩
  · omega
  · omega

/-- Back and forth, what was lost at the end of the range stays lost. -/
example : (shift 250 10).shift (-10) = 245 := by decide

end Channel

/-! ## Colors -/

namespace Rgb

def channels (color : Rgb) : List Channel :=
  [color.red, color.green, color.blue]

@[simp] theorem channels_shift (color : Rgb) (amount : Int) :
    (color.shift amount).channels = color.channels.map fun channel => channel.shift amount := rfl

theorem shift_shift (color : Rgb) {amount more : Int}
    (oneWay : 0 ≤ amount ∧ 0 ≤ more ∨ amount ≤ 0 ∧ more ≤ 0) :
    (color.shift amount).shift more = color.shift (amount + more) := by
  simp only [shift, Channel.shift_shift _ oneWay]

end Rgb

/-! ## Texts -/

namespace Color

variable {text : String}

theorem shade_shade_of_other (noColor : Rgb.parse? text = none) (amount more : Int) :
    shade (shade text amount) more = shade text amount := by
  have stillNone : Rgb.parse? (Text.trim text) = none :=
    (SameSpelling.trimmed text).parse?_eq.symm.trans noColor
  rw [shade_of_other noColor, shade_of_other stillNone, Text.trim_trim]

theorem parse?_shade {color : Rgb} (isColor : Rgb.parse? text = some color) (amount : Int) :
    Rgb.parse? (shade text amount) = some (color.shift amount) := by
  rw [shade_of_color isColor, Rgb.parse?_spelling]

/-- A text that is no color is shaded to itself without the blanks around it, again and again. A
color is shaded to a color in six lowercase digits, of which every channel has the amount added as
far as its range goes. The shade depends on the color alone, which all its spellings have in common
and no other text has; a greater amount makes no channel darker; and two amounts that are both
positive or both negative, or zero, may be added up. -/
theorem shade_saturates (text : String) :
    (Rgb.parse? text = none → ∀ amount more,
      shade text amount = Text.trim text ∧
        shade (shade text amount) more = shade text amount) ∧
    ∀ color, Rgb.parse? text = some color →
      (∀ amount, IsSixDigits (shade text amount) ∧
        ∃ shaded, Rgb.parse? (shade text amount) = some shaded ∧
          (shaded.channels.map fun channel => (channel.val : Int)) =
            color.channels.map fun channel => max 0 (min 255 (channel.val + amount))) ∧
      (∀ other, SameSpelling text other ↔ Rgb.parse? other = some color) ∧
      (∀ other amount, SameSpelling text other → shade other amount = shade text amount) ∧
      (∀ amount more, amount ≤ more →
        ∃ darker lighter, Rgb.parse? (shade text amount) = some darker ∧
          Rgb.parse? (shade text more) = some lighter ∧
          List.Forall₂ (fun first second => first ≤ second) darker.channels lighter.channels) ∧
      ∀ amount more, (0 ≤ amount ∧ 0 ≤ more ∨ amount ≤ 0 ∧ more ≤ 0) →
        shade (shade text amount) more = shade text (amount + more) := by
  constructor
  · intro noColor amount more
    exact ⟨shade_of_other noColor amount, shade_shade_of_other noColor amount more⟩
  · intro color isColor
    refine ⟨fun amount => ⟨?_, color.shift amount, parse?_shade isColor amount, ?_⟩,
      fun other => sameSpelling_iff isColor, ?_, ?_, ?_⟩
    · exact isSixDigits_shade (by simp [isColor]) amount
    · rw [Rgb.channels_shift, List.map_map]
      exact List.map_congr_left fun channel _ => channel.val_shift amount
    · intro other amount same
      rw [shade_of_color ((sameSpelling_iff isColor).mp same), shade_of_color isColor]
    · intro amount more le
      refine ⟨_, _, parse?_shade isColor amount, parse?_shade isColor more, ?_⟩
      rw [Rgb.channels_shift, Rgb.channels_shift, List.forall₂_map_left_iff,
        List.forall₂_map_right_iff]
      exact List.forall₂_same.mpr fun channel _ => channel.shift_le_shift le
    · intro amount more oneWay
      rw [shade_of_color (parse?_shade isColor amount), shade_of_color isColor,
        color.shift_shift oneWay]

theorem shade_saturates_orange :
    Rgb.parse? " #F80 " = some ⟨255, 136, 0⟩ ∧
      shade "ff8800" 100 = shade " #F80 " 100 ∧
      shade (shade " #F80 " 100) 100 = shade " #F80 " 200 ∧
      Rgb.parse? "orange" = none ∧ shade (shade "orange" 100) 100 = shade "orange" 100 := by
  have isColor : Rgb.parse? " #F80 " = some ⟨255, 136, 0⟩ := by decide +kernel
  have noColor : Rgb.parse? "orange" = none := by decide +kernel
  rcases (shade_saturates " #F80 ").2 _ isColor with ⟨-, spellings, sameShades, -, addUp⟩
  have spelled : SameSpelling " #F80 " "ff8800" := (spellings "ff8800").mpr (by decide +kernel)
  exact ⟨isColor, sameShades "ff8800" 100 spelled, addUp 100 100 (by decide), noColor,
    ((shade_saturates "orange").1 noColor 100 100).2⟩

end Color

end Bulletin
