/-!
# Binary floating-point numbers

The finite numbers of a binary floating-point format, written as a significand times a power of
two, and the one rounding rule that makes them: nearest, a tie going to the even significand.
Everything is arithmetic on naturals and integers.
-/

namespace Bulletin.Number

/-- A significand of at most `precision` bits times a power of two whose exponent lies in the
given range. -/
structure BinaryFormat where
  precision : Nat
  minExponent : Int
  maxExponent : Int
deriving DecidableEq, Repr

def binary32 : BinaryFormat := ⟨24, -149, 104⟩

def binary64 : BinaryFormat := ⟨53, -1074, 971⟩

/-- The value `significand * 2 ^ exponent`. -/
structure Dyadic where
  significand : Nat
  exponent : Int
deriving DecidableEq, Repr, Inhabited

inductive BinaryValue where
  | finite (negative : Bool) (magnitude : Dyadic)
  | infinite (negative : Bool)
  | notANumber
deriving DecidableEq, Repr

/-- `numerator / denominator` rounded to the nearest natural number, a tie to the even one. -/
def roundHalfEven (numerator denominator : Nat) : Nat :=
  let quotient := numerator / denominator
  let twice := 2 * (numerator % denominator)
  if twice < denominator then quotient
  else if denominator < twice then quotient + 1
  else quotient + quotient % 2

/-- The two naturals whose quotient is `value * 2 ^ exponent`. -/
def scaled (value : Nat) (exponent : Int) : Nat × Nat :=
  (value * Nat.pow 2 exponent.toNat, Nat.pow 2 (-exponent).toNat)

/-- The integer `e` with `2 ^ e ≤ numerator / denominator < 2 ^ (e + 1)`. -/
def floorLog2 (numerator denominator : Nat) : Int :=
  let estimate : Int := (numerator.log2 : Int) - (denominator.log2 : Int)
  if denominator * Nat.pow 2 estimate.toNat ≤ numerator * Nat.pow 2 (-estimate).toNat then estimate
  else estimate - 1

namespace BinaryFormat

/-- The number of the format nearest to `numerator / denominator`; none where that is too large
to be finite. -/
def round (format : BinaryFormat) (numerator denominator : Nat) : Option Dyadic :=
  if numerator = 0 then some ⟨0, format.minExponent⟩
  else
    let exponent :=
      max (floorLog2 numerator denominator - (format.precision - 1 : Nat)) format.minExponent
    let significand :=
      roundHalfEven (numerator * Nat.pow 2 (-exponent).toNat)
        (denominator * Nat.pow 2 exponent.toNat)
    let carried := significand = Nat.pow 2 format.precision
    let result : Dyadic :=
      if carried then ⟨Nat.pow 2 (format.precision - 1), exponent + 1⟩
      else ⟨significand, exponent⟩
    if format.maxExponent < result.exponent then none else some result

def ofNat (format : BinaryFormat) (value : Nat) : Option Dyadic :=
  format.round value 1

def narrow (format : BinaryFormat) (negative : Bool) (value : Dyadic) : BinaryValue :=
  let (numerator, denominator) := scaled value.significand value.exponent
  match format.round numerator denominator with
  | some magnitude => .finite negative magnitude
  | none => .infinite negative

def mul (format : BinaryFormat) (left right : Dyadic) : Option Dyadic :=
  let (numerator, denominator) :=
    scaled (left.significand * right.significand) (left.exponent + right.exponent)
  format.round numerator denominator

def div (format : BinaryFormat) (left right : Dyadic) : Option Dyadic :=
  let (numerator, denominator) := scaled left.significand (left.exponent - right.exponent)
  format.round numerator (denominator * right.significand)

end BinaryFormat

example : binary64.round 1 10 = some ⟨0x1999999999999A, -56⟩ := by decide +kernel
example : binary32.round 16777217 1 = some ⟨8388608, 1⟩ := by decide +kernel
example : binary32.round (10 ^ 39) 1 = none := by decide +kernel

end Bulletin.Number
