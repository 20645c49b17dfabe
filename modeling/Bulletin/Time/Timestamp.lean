import Bulletin.Number.Decimal
import Bulletin.Text.Basic
import Bulletin.Time.Date
/-!
# Timestamps

A moment in universal time, to the nanosecond. It is written as a date, a `T`, a time of day and a
`Z`. It is read from such text, whatever its offset from universal time, and from a bare date,
which stands for its midnight.
-/

namespace Bulletin

/-- A second of 60 is a leap second. -/
structure Timestamp where
  date : Date
  hour : Nat
  minute : Nat
  second : Nat
  nanosecond : Nat
deriving DecidableEq

namespace Timestamp

def midnight (date : Date) : Timestamp :=
  ⟨date, 0, 0, 0, 0⟩

def afterEpoch (seconds nanosecond : Nat) : Timestamp :=
  { date := Date.epoch.after (seconds / 86400)
    hour := seconds % 86400 / 3600
    minute := seconds % 3600 / 60
    second := seconds % 60
    nanosecond }

/-! ## Writing -/

def padded (width value : Nat) : List Char :=
  let digits := Number.digitChars value
  List.replicate (width - digits.length) '0' ++ digits

/-- Four digits; a year that needs another number of them, or lies before the year 0, is
signed. -/
def yearText (year : Int) : List Char :=
  if year < 0 then '-' :: padded 4 year.natAbs
  else if 9999 < year then '+' :: padded 4 year.natAbs
  else padded 4 year.natAbs

def dateText (date : Date) : List Char :=
  yearText date.year ++ '-' :: padded 2 date.month ++ '-' :: padded 2 date.day

/-- As many groups of three fraction digits as are needed. -/
def fractionText (nanosecond : Nat) : List Char :=
  if nanosecond = 0 then []
  else if nanosecond % 1000000 = 0 then '.' :: padded 3 (nanosecond / 1000000)
  else if nanosecond % 1000 = 0 then '.' :: padded 6 (nanosecond / 1000)
  else '.' :: padded 9 nanosecond

def chars (moment : Timestamp) : List Char :=
  dateText moment.date ++ 'T' :: padded 2 moment.hour ++ ':' :: padded 2 moment.minute ++
    ':' :: padded 2 moment.second ++ fractionText moment.nanosecond ++ ['Z']

def text (moment : Timestamp) : String :=
  String.ofList moment.chars

/-! ## Reading -/

def digits? (count : Nat) (chars : List Char) : Option (Nat × List Char) :=
  let digits := chars.take count
  if digits.length = count ∧ digits.all Char.isDigit then
    some (Number.digitsValue digits, chars.drop count)
  else none

def past? (mark : Char) : List Char → Option (List Char)
  | c :: rest => if c = mark then some rest else none
  | [] => none

/-- A fraction of a second in nanoseconds. Digits beyond the ninth are dropped. -/
def fraction? : List Char → Option (Nat × List Char)
  | '.' :: rest =>
      let (digits, rest) := rest.span Char.isDigit
      if digits.isEmpty then none
      else
        let kept := digits.take 9
        some (Number.digitsValue kept * Nat.pow 10 (9 - kept.length), rest)
  | chars => some (0, chars)

/-- Whether a sign is negative, and what follows it. The minus sign proper counts as well as the
hyphen. -/
def sign? : List Char → Option (Bool × List Char)
  | '+' :: rest => some (false, rest)
  | '-' :: rest => some (true, rest)
  | '\u2212' :: rest => some (true, rest)
  | _ => none

def offset? (chars : List Char) : Option (Int × List Char) :=
  match chars with
  | 'Z' :: rest => some (0, rest)
  | 'z' :: rest => some (0, rest)
  | _ => do
      let (negative, rest) ← sign? chars
      let (hours, rest) ← digits? 2 rest
      let (minutes, rest) ← digits? 2 (← past? ':' rest)
      if 24 ≤ hours ∨ 60 ≤ minutes then none
      else
        let total : Int := 60 * hours + minutes
        return (if negative then -total else total, rest)

def toUniversal (given : Timestamp) (offset : Int) : Timestamp :=
  let minutes : Int := 60 * given.hour + given.minute - offset
  let (date, minutes) :=
    if minutes < 0 then (given.date.previous, minutes + 1440)
    else if 1440 ≤ minutes then (given.date.next, minutes - 1440)
    else (given.date, minutes)
  { given with date, hour := minutes.toNat / 60, minute := minutes.toNat % 60 }

def ofFullText? (chars : List Char) : Option Timestamp := do
  let (year, rest) ← digits? 4 chars
  let (month, rest) ← digits? 2 (← past? '-' rest)
  let (day, rest) ← digits? 2 (← past? '-' rest)
  let rest ← (past? 'T' rest <|> past? 't' rest <|> past? ' ' rest)
  let (hour, rest) ← digits? 2 rest
  let (minute, rest) ← digits? 2 (← past? ':' rest)
  let (second, rest) ← digits? 2 (← past? ':' rest)
  let (nanosecond, rest) ← fraction? rest
  let (offset, rest) ← offset? rest
  let date ← Date.ofFields? year month day
  if rest = [] ∧ hour < 24 ∧ minute < 60 ∧ second ≤ 60 then
    return toUniversal ⟨date, hour, minute, second, nanosecond⟩ offset
  else none

def yearRange : Int × Int := (-262143, 262142)

/-- One to `width` digits, behind any blanks. -/
def number? (width : Nat) (chars : List Char) : Option (Nat × List Char) :=
  let chars := chars.dropWhile Text.isBlank
  let digits := (chars.take width).takeWhile Char.isDigit
  if digits.isEmpty then none
  else some (Number.digitsValue digits, chars.drop digits.length)

/-- A year, behind any blanks: one to four digits, or any number of digits with a sign. -/
def year? (chars : List Char) : Option (Int × List Char) :=
  let chars := chars.dropWhile Text.isBlank
  let signed (negative : Bool) (rest : List Char) : Option (Int × List Char) :=
    let digits := rest.takeWhile Char.isDigit
    if digits.isEmpty then none
    else
      let value : Int := Number.digitsValue digits
      some (if negative then -value else value, rest.drop digits.length)
  match chars with
  | '-' :: rest => signed true rest
  | '+' :: rest => signed false rest
  | _ => (number? 4 chars).map fun (value, rest) => ((value : Int), rest)

def ofDay? (year : Int) (month day : Nat) (rest : List Char) : Option Timestamp :=
  if rest = [] ∧ yearRange.1 ≤ year ∧ year ≤ yearRange.2 then
    (Date.ofFields? year month day).map midnight
  else none

def ofSlashDate? (chars : List Char) : Option Timestamp := do
  let (month, rest) ← number? 2 chars
  let (day, rest) ← number? 2 (← past? '/' rest)
  let (year, rest) ← year? (← past? '/' rest)
  ofDay? year month day rest

def ofHyphenDate? (chars : List Char) : Option Timestamp := do
  let (year, rest) ← year? chars
  let (month, rest) ← number? 2 (← past? '-' rest)
  let (day, rest) ← number? 2 (← past? '-' rest)
  ofDay? year month day rest

/-- The moment that a text names in any of the forms that are read, blanks around it aside. -/
def ofText? (text : String) : Option Timestamp :=
  let chars := Text.trimChars text.toList
  ofFullText? chars <|> ofSlashDate? chars <|> ofHyphenDate? chars

example : (ofText? "2016-12-31T18:59:60.25-05:30").map Timestamp.text =
    some "2017-01-01T00:29:60.250Z" := by decide +kernel
example : (ofText? "1/2/-5").map Timestamp.text = some "-0005-01-02T00:00:00Z" := by
  decide +kernel

end Timestamp

end Bulletin
