import Bulletin.Json.Scan.Cursor
/-!
# Scanning numbers

A number without fraction and exponent is an integer where it fits 64 bits, `-0` excepted. Every
other number is a real, and is read by a rule of its own: digits are kept while they fit 64 bits,
the others count for the magnitude only, and the kept digits are multiplied or divided by a power
of ten in one rounded step.
-/

namespace Bulletin.Json

/-- Digits that fit 64 bits, and the power of ten they are to be multiplied by. -/
structure Significand where
  value : Nat
  exponent : Int
deriving DecidableEq, Repr

def canTake (value digit : Nat) : Bool :=
  value * 10 + digit < Nat.pow 2 64

def digitOf (c : Char) : Nat :=
  c.toNat - '0'.toNat

/-- The digits before the point: once one is dropped, so are all after it. -/
def wholeSignificand (digits : List Char) : Significand :=
  digits.foldl (fun kept c =>
      if kept.exponent = 0 && canTake kept.value (digitOf c) then
        ⟨kept.value * 10 + digitOf c, 0⟩
      else ⟨kept.value, kept.exponent + 1⟩)
    ⟨0, 0⟩

def withFraction : List Char → Significand → Significand
  | [], kept => kept
  | c :: digits, kept =>
      if canTake kept.value (digitOf c) then
        withFraction digits ⟨kept.value * 10 + digitOf c, kept.exponent - 1⟩
      else kept

def powerOfTen? (power : Nat) : Option Number.Dyadic :=
  if power ≤ 308 then Number.binary64.ofNat (Nat.pow 10 power) else none

/-- Scales a real by a power of ten, in steps of `10 ^ 308` where the power is smaller than any
real; none where the result is too large. -/
def scale : (steps : Nat) → Number.Dyadic → (exponent : Int) → Option Number.Dyadic
  | steps, value, exponent =>
      match powerOfTen? exponent.natAbs with
      | some power =>
          if 0 ≤ exponent then Number.binary64.mul value power
          else Number.binary64.div value power
      | none =>
          if value.significand = 0 then some value
          else if 0 ≤ exponent then none
          else
            match steps with
            | 0 => some ⟨0, Number.binary64.minExponent⟩
            | steps + 1 =>
                match Number.binary64.div value ((powerOfTen? 308).getD ⟨1, 0⟩) with
                | some smaller => scale steps smaller (exponent + 308)
                | none => none

/-- The real of a significand. Three steps take every significand of 64 bits to zero. -/
def Significand.real? (kept : Significand) : Option Number.Dyadic :=
  (Number.binary64.ofNat kept.value).bind fun value => scale 3 value kept.exponent

def realAt (negative : Bool) (kept : Significand) (cursor : Cursor) :
    Except Fault (Json.Number × Cursor) :=
  match kept.real? with
  | some magnitude => .ok (.real negative magnitude, cursor)
  | none => .error (cursor.fault .numberOutOfRange 0)

def digitRun (cursor : Cursor) : List Char × Cursor :=
  let (digits, rest) := cursor.rest.span Char.isDigit
  (digits, ⟨rest, cursor.offset + digits.length⟩)

/-- Written exponents from here on are beyond all bounds. -/
def exponentLimit : Nat := Nat.pow 2 31

/-- The written exponent, read digit by digit: either its value, or the cursor behind the first
digit that takes it to the limit. -/
def exponentValue : (digits : List Char) → (value : Nat) → Cursor → Except Cursor (Nat × Cursor)
  | [], value, cursor => .ok (value, cursor)
  | c :: digits, value, cursor =>
      let after : Cursor := ⟨cursor.rest.drop 1, cursor.offset + 1⟩
      if exponentLimit ≤ value * 10 + digitOf c then .error after
      else exponentValue digits (value * 10 + digitOf c) after

def exponentPart (negative : Bool) (kept : Significand) (cursor : Cursor) :
    Except Fault (Json.Number × Cursor) :=
  let (below, cursor) : Bool × Cursor :=
    match cursor.rest with
    | '+' :: rest => (false, cursor.next rest)
    | '-' :: rest => (true, cursor.next rest)
    | _ => (false, cursor)
  match cursor.rest with
  | [] => .error (cursor.fault .endBeforeValue 0)
  | c :: _ =>
      if c.isDigit then
        let (digits, after) := digitRun cursor
        match exponentValue digits 0 cursor with
        | .ok (value, _) =>
            let shift : Int := if below then -value else value
            realAt negative ⟨kept.value, kept.exponent + shift⟩ after
        | .error stopped =>
            if kept.value ≠ 0 && !below then .error (stopped.fault .numberOutOfRange 0)
            else .ok (.real negative ⟨0, Number.binary64.minExponent⟩, after)
      else .error (cursor.fault .invalidNumber 1)

def fractionPart (negative : Bool) (kept : Significand) (cursor : Cursor) :
    Except Fault (Json.Number × Cursor) :=
  let (digits, after) := digitRun cursor
  if digits.isEmpty then
    match cursor.rest with
    | [] => .error (cursor.fault .endBeforeValue 0)
    | _ :: _ => .error (cursor.aheadFault .invalidNumber)
  else
    let kept := withFraction digits kept
    match after.rest with
    | 'e' :: rest => exponentPart negative kept (after.next rest)
    | 'E' :: rest => exponentPart negative kept (after.next rest)
    | _ => realAt negative kept after

def unsignedNumber (negative : Bool) (cursor : Cursor) :
    Except Fault (Json.Number × Cursor) :=
  match cursor.rest with
  | [] => .error (cursor.fault .endBeforeValue 0)
  | c :: rest =>
      if !c.isDigit then .error (cursor.fault .invalidNumber 1)
      else
        let second := (rest.head?.map Char.isDigit).getD false
        if c = '0' && second then .error ((cursor.next rest).aheadFault .invalidNumber)
        else
          let (digits, after) := digitRun cursor
          let kept := wholeSignificand digits
          match after.rest with
          | '.' :: rest => fractionPart negative kept (after.next rest)
          | 'e' :: rest => exponentPart negative kept (after.next rest)
          | 'E' :: rest => exponentPart negative kept (after.next rest)
          | _ =>
              if kept.exponent ≠ 0 then realAt negative kept after
              else if !negative then .ok (.integer kept.value, after)
              else if kept.value = 0 ∨ Nat.pow 2 63 < kept.value then realAt true kept after
              else .ok (.integer (-kept.value), after)

end Bulletin.Json
