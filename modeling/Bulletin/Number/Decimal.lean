import Bulletin.Number.Binary
/-!
# Decimal text

A decimal is a coefficient times a power of ten. A `NumeralStyle` records the decisions a text
format makes about it: where exponents are written, and whether a whole number shows a point.
-/

namespace Bulletin.Number

/-- The value `coefficient * 10 ^ exponent`. -/
structure Decimal where
  coefficient : Nat
  exponent : Int
deriving DecidableEq, Repr

structure NumeralStyle where
  /-- The powers of ten of the first digit that are written without an exponent; none for all. -/
  positional : Option (Int × Int)
  /-- What follows a number without fraction digits. -/
  wholeMark : List Char
deriving DecidableEq, Repr

def digitChars (value : Nat) : List Char :=
  Nat.toDigits 10 value

def digitsValue (digits : List Char) : Nat :=
  digits.foldl (fun value c => 10 * value + (c.toNat - '0'.toNat)) 0

def naturalText (value : Nat) : String :=
  String.ofList (digitChars value)

namespace NumeralStyle

def positionalText (style : NumeralStyle) (digits : List Char) (exponent : Int) : List Char :=
  let places := (-exponent).toNat
  if places = 0 then
    digits ++ List.replicate exponent.toNat '0' ++ style.wholeMark
  else
    let padded := List.replicate (places + 1 - digits.length) '0' ++ digits
    padded.take (padded.length - places) ++ '.' :: padded.drop (padded.length - places)

def exponentText (digits : List Char) (power : Int) : List Char :=
  let fraction := if digits.length ≤ 1 then [] else '.' :: digits.drop 1
  digits.take 1 ++ fraction ++ 'e' :: (if power < 0 then '-' else '+') :: digitChars power.natAbs

def write (style : NumeralStyle) (value : Decimal) : List Char :=
  let digits := digitChars value.coefficient
  let power := value.exponent + (digits.length - 1 : Nat)
  match style.positional with
  | some (least, greatest) =>
      if least ≤ power ∧ power ≤ greatest then style.positionalText digits value.exponent
      else exponentText digits power
  | none => style.positionalText digits value.exponent

end NumeralStyle

/-- Numbers in JSON text show their fraction point, and take an exponent below `10 ^ -5` and from
`10 ^ 16` on. -/
def jsonStyle : NumeralStyle := ⟨some (-5, 15), ['.', '0']⟩

/-- Numbers in style sheets never take an exponent, and show no needless point. -/
def styleSheetStyle : NumeralStyle := ⟨none, []⟩

example : jsonStyle.write ⟨15, -1⟩ = ['1', '.', '5'] := by decide
example : jsonStyle.write ⟨1, 2⟩ = ['1', '0', '0', '.', '0'] := by decide
example : jsonStyle.write ⟨1, 16⟩ = ['1', 'e', '+', '1', '6'] := by decide
example : styleSheetStyle.write ⟨3, -2⟩ = ['0', '.', '0', '3'] := by decide

end Bulletin.Number
