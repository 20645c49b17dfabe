import Bulletin.Number.Decimal
/-!
# Shortest decimals

The decimal with the fewest digits among those that round to a given number, and of those the
nearest to it. The decimals that round to a number form an interval, closed exactly when the
significand is even; the grids of multiples of `10 ^ k` are tried from the coarsest on, and the
first grid that meets the interval gives the answer.
-/

namespace Bulletin.Number

inductive Tie where
  | even
  | up
deriving DecidableEq, Repr

/-- What rounds to a number, in quarters of the last place of its significand. -/
structure RoundingInterval where
  low : Nat
  middle : Nat
  high : Nat
  /-- Whether the two ends belong to it. -/
  closed : Bool
  /-- The exponent of one quarter. -/
  exponent : Int
deriving DecidableEq, Repr

/-- Below a power of two the spacing halves, so the interval reaches half as far down. -/
def BinaryFormat.interval (format : BinaryFormat) (value : Dyadic) : RoundingInterval :=
  let narrow :=
    value.significand = Nat.pow 2 (format.precision - 1) ∧ format.minExponent < value.exponent
  { low := 4 * value.significand - (if narrow then 1 else 2)
    middle := 4 * value.significand
    high := 4 * value.significand + 2
    closed := value.significand % 2 = 0
    exponent := value.exponent - 2 }

namespace RoundingInterval

/-- The point `coefficient * 10 ^ power` of a grid, scaled to be compared with `atScale`. -/
def gridPoint (interval : RoundingInterval) (power : Int) (coefficient : Nat) : Nat :=
  coefficient * Nat.pow 10 power.toNat * Nat.pow 2 (-interval.exponent).toNat

def atScale (interval : RoundingInterval) (power : Int) (quarters : Nat) : Nat :=
  quarters * Nat.pow 2 interval.exponent.toNat * Nat.pow 10 (-power).toNat

def holds (interval : RoundingInterval) (power : Int) (coefficient : Nat) : Bool :=
  let point := interval.gridPoint power coefficient
  let low := interval.atScale power interval.low
  let high := interval.atScale power interval.high
  if interval.closed then low ≤ point && point ≤ high else low < point && point < high

def nearest? (interval : RoundingInterval) (tie : Tie) (power : Int) : Option Decimal :=
  let middle := interval.atScale power interval.middle
  let below := middle / interval.gridPoint power 1
  let above := below + 1
  match interval.holds power below, interval.holds power above with
  | true, true =>
      let down := middle - interval.gridPoint power below
      let up := interval.gridPoint power above - middle
      let takeBelow :=
        down < up || (down == up && (match tie with | .even => below % 2 == 0 | .up => false))
      some ⟨if takeBelow then below else above, power⟩
  | true, false => some ⟨below, power⟩
  | false, true => some ⟨above, power⟩
  | false, false => none

def search (interval : RoundingInterval) (tie : Tie) : (count : Nat) → (power : Int) → Decimal
  | 0, power => ⟨0, power⟩
  | count + 1, power =>
      match interval.nearest? tie power with
      | some decimal => decimal
      | none => interval.search tie count (power - 1)

end RoundingInterval

/-- A power of ten above the value: `1233 / 4096` is a little less than `log10 2`. -/
def powerAbove (value : Dyadic) : Int :=
  let log2 := value.exponent + (value.significand.log2 : Int)
  log2 * 1233 / 4096 + 2

/-- The shortest decimal that rounds to `value`, which is zero for zero. -/
def shortest (format : BinaryFormat) (tie : Tie) (value : Dyadic) : Decimal :=
  if value.significand = 0 then ⟨0, 0⟩
  else (format.interval value).search tie (format.precision + 8) (powerAbove value)

example : shortest binary64 .even ⟨1, -1074⟩ = ⟨5, -324⟩ := by decide +kernel
example : shortest binary64 .even ⟨0x1999999999999A, -56⟩ = ⟨1, -1⟩ := by decide +kernel
example : shortest binary32 .up ⟨15432099, 3⟩ = ⟨12345679, 1⟩ := by decide +kernel

def BinaryValue.styleSheetText (format : BinaryFormat) : BinaryValue → String
  | .finite negative magnitude =>
      (if negative then "-" else "") ++
        String.ofList (styleSheetStyle.write (shortest format .up magnitude))
  | .infinite negative => if negative then "-inf" else "inf"
  | .notANumber => "NaN"

end Bulletin.Number
