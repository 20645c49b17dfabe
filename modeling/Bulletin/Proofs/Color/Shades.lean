import Bulletin.Color
import Bulletin.Proofs.Number.Hexadecimal
/-!
# Shades

Every color has shades, all of them in one spelling: it can be made as light as white and as dark as
black. So a text is its own shade by every amount, blanks aside, exactly where it is no color.
-/

namespace Bulletin

/-! ## Spellings -/

def Color.IsSixDigits (text : String) : Prop :=
  ∃ digits, text.toList = '#' :: digits ∧ digits.length = 6 ∧
    ∀ c ∈ digits, '0' ≤ c ∧ c ≤ '9' ∨ 'a' ≤ c ∧ c ≤ 'f'

theorem Rgb.isSixDigits_spelling (color : Rgb) : Color.IsSixDigits color.spelling := by
  have lowercase : ∀ digit : Fin 16, '0' ≤ Nat.digitChar digit ∧ Nat.digitChar digit ≤ '9' ∨
      'a' ≤ Nat.digitChar digit ∧ Nat.digitChar digit ≤ 'f' := by decide
  refine ⟨_, String.toList_ofList, ?_, ?_⟩
  · simp [Number.length_hexDigits]
  · intro c member
    rcases List.mem_flatMap.mp member with ⟨channel, -, isDigit⟩
    rcases Number.exists_of_mem_hexDigits isDigit with ⟨digit, rfl⟩
    exact lowercase digit

/-! ## The lightest and the darkest shade -/

namespace Rgb

def white : Rgb := ⟨255, 255, 255⟩

def black : Rgb := ⟨0, 0, 0⟩

theorem shift_lightest (color : Rgb) : color.shift 255 = white := by
  have lightest (channel : Channel) : channel.shift 255 = 255 := by
    apply Fin.ext
    simp only [Channel.shift, Channel.clamp]
    omega
  rw [shift, lightest, lightest, lightest, white]

theorem shift_darkest (color : Rgb) : color.shift (-255) = black := by
  have darkest (channel : Channel) : channel.shift (-255) = 0 := by
    apply Fin.ext
    simp only [Channel.shift, Channel.clamp]
    omega
  rw [shift, darkest, darkest, darkest, black]

end Rgb

/-! ## Shades of texts -/

namespace Color

/-- A number that 32 bits hold, one of them for its sign. -/
def IsSignedWord (value : Int) : Prop :=
  -2147483648 ≤ value ∧ value ≤ 2147483647

/-- An amount by which a text can be shaded in numbers of 32 bits: it is one of these, and where the
text is a color, so are its channels with the amount added. -/
def Admits (spelling : String) (amount : Int) : Prop :=
  IsSignedWord amount ∧ ∀ color, Rgb.parse? spelling = some color →
    ∀ channel ∈ [color.red, color.green, color.blue], IsSignedWord (channel.val + amount)

/-- No amount makes another text of it, but for the blanks around it. -/
def LacksShades (spelling : String) : Prop :=
  ∀ amount, Admits spelling amount → shade spelling amount = Text.trim spelling

variable {spelling : String}

theorem admits_of_small {amount : Int} (low : -255 ≤ amount) (high : amount ≤ 255) :
    Admits spelling amount := by
  refine ⟨by unfold IsSignedWord; omega, fun color _ channel _ => ?_⟩
  have inRange := channel.isLt
  unfold IsSignedWord
  omega

theorem shade_of_color {color : Rgb} (isColor : Rgb.parse? spelling = some color) (amount : Int) :
    shade spelling amount = (color.shift amount).spelling := by
  rw [shade, isColor]

theorem shade_of_other (noColor : Rgb.parse? spelling = none) (amount : Int) :
    shade spelling amount = Text.trim spelling := by
  rw [shade, noColor]

theorem lacksShades_iff : LacksShades spelling ↔ Rgb.parse? spelling = none := by
  constructor
  · intro unchanged
    cases isColor : Rgb.parse? spelling with
    | none => rfl
    | some color =>
        have light := unchanged 255 (admits_of_small (by decide) (by decide))
        have dark := unchanged (-255) (admits_of_small (by decide) (by decide))
        rw [shade_of_color isColor, Rgb.shift_lightest] at light
        rw [shade_of_color isColor, Rgb.shift_darkest] at dark
        exact absurd (light.trans dark.symm) (by decide)
  · intro noColor amount _
    exact shade_of_other noColor amount

theorem isSixDigits_shade (isColor : Rgb.parse? spelling ≠ none) (amount : Int) :
    IsSixDigits (shade spelling amount) := by
  rcases Option.ne_none_iff_exists'.mp isColor with ⟨color, found⟩
  rw [shade_of_color found]
  exact Rgb.isSixDigits_spelling _

end Color

end Bulletin
