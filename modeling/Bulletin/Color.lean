import Bulletin.Number.Hexadecimal
import Bulletin.Number.Shortest
import Bulletin.Text.Basic
import Bulletin.Text.Bytes
/-!
# Colors

A theme color is written `#RRGGBB` or `#RGB`, the `#` being optional. Shades and translucent
colors are derived from it; a spelling that is no color passes through, trimmed, so that a page
can always be made.
-/

namespace Bulletin

abbrev Channel := Fin 256

namespace Channel

/-- The channel nearest to an integer. -/
def clamp (strength : Int) : Channel :=
  ⟨min strength.toNat 255, by omega⟩

def ofByte (byte : BitVec 8) : Channel :=
  byte.toFin

/-- The channel of one digit, the lowest of a word, that stands for two equal ones. -/
def ofLastDigit (word : BitVec 16) : Except Number.WordFault Channel := do
  return ofByte (← Number.Word.times ((word &&& 0xF).setWidth 8) 17)

def shift (channel : Channel) (amount : Int) : Channel :=
  clamp (channel.val + amount)

end Channel

structure Rgb where
  red : Channel
  green : Channel
  blue : Channel
deriving DecidableEq, Repr

namespace Rgb

def ofWord (word : BitVec 32) : Rgb where
  red := .ofByte ((word >>> 16).setWidth 8)
  green := .ofByte ((word >>> 8).setWidth 8)
  blue := .ofByte (word.setWidth 8)

/-- The color of the last three digits of a word, each of which stands for two equal ones. -/
def ofShortWord (word : BitVec 16) : Except Number.WordFault Rgb := do
  let red ← Channel.ofLastDigit (word >>> 8)
  let green ← Channel.ofLastDigit (word >>> 4)
  let blue ← Channel.ofLastDigit word
  return ⟨red, green, blue⟩

def ofBytes (digits : List UInt8) : Except Number.WordFault (Option Rgb) :=
  match digits.length with
  | 6 => do
      let word ← Number.Word.ofHex 32 digits
      return some (ofWord word)
  | 3 => do
      let word ← Number.Word.ofHex 16 digits
      return some (← ofShortWord word)
  | _ => .ok none

/-- The characters behind one optional `#`. -/
def digitsOf : List Char → List Char
  | '#' :: rest => rest
  | chars => chars

def digitBytes? (spelling : String) : Option (List UInt8) :=
  let bytes := Text.bytes (String.ofList (digitsOf (Text.trimChars spelling.toList)))
  if bytes.all Number.isHexByte then some bytes else none

/-- The color that `spelling` names, blanks around it aside, if it names one. Digits that make no
word are a fault. -/
def read (spelling : String) : Except Number.WordFault (Option Rgb) :=
  match digitBytes? spelling with
  | some digits => ofBytes digits
  | none => .ok none

/-- The color that `spelling` names; none where reading it ends with a fault. -/
def parse? (spelling : String) : Option Rgb :=
  match read spelling with
  | .ok found => found
  | .error _ => none

def shift (color : Rgb) (amount : Int) : Rgb :=
  ⟨color.red.shift amount, color.green.shift amount, color.blue.shift amount⟩

def spelling (color : Rgb) : String :=
  String.ofList <|
    '#' :: [color.red, color.green, color.blue].flatMap fun channel =>
      Number.hexDigits 2 channel.val

end Rgb

/-- How strongly a translucent color covers what is behind it. -/
abbrev Opacity := Number.BinaryValue

namespace Opacity

/-- The opacity of button shadows: the number nearest to 0.3. -/
def shadow : Opacity := .finite false ⟨10066330, -25⟩

def text (opacity : Opacity) : String :=
  opacity.styleSheetText Number.binary32

end Opacity

namespace Color

/-- A lighter (`0 < amount`) or darker color; a spelling that is no color stays as it is. -/
def shade (spelling : String) (amount : Int) : String :=
  match Rgb.parse? spelling with
  | some color => (color.shift amount).spelling
  | none => Text.trim spelling

def translucent (spelling : String) (opacity : Opacity) : String :=
  match Rgb.parse? spelling with
  | some color =>
      "rgba(" ++ Number.naturalText color.red.val ++ ", " ++
        Number.naturalText color.green.val ++ ", " ++ Number.naturalText color.blue.val ++
        ", " ++ opacity.text ++ ")"
  | none => Text.trim spelling

end Color

example : Color.shade " #fA0 " 20 = "#ffbe14" := by decide +kernel
example : Color.translucent "001489" Opacity.shadow = "rgba(0, 20, 137, 0.3)" := by decide +kernel

end Bulletin
