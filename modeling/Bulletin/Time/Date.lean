/-!
# Dates

Days of the calendar in use today, continued into all years, the year before the year 1 being 0.
-/

namespace Bulletin

namespace Date

def isLeapYear (year : Int) : Bool :=
  year % 4 = 0 && (year % 100 ≠ 0 || year % 400 = 0)

def daysInMonth (year : Int) (month : Nat) : Nat :=
  if month = 2 then (if isLeapYear year then 29 else 28)
  else if month = 4 ∨ month = 6 ∨ month = 9 ∨ month = 11 then 30
  else 31

theorem daysInMonth_pos (year : Int) (month : Nat) : 0 < daysInMonth year month := by
  unfold daysInMonth
  split <;> (try split) <;> decide

structure IsValid (year : Int) (month day : Nat) : Prop where
  one_le_month : 1 ≤ month
  month_le : month ≤ 12
  one_le_day : 1 ≤ day
  day_le : day ≤ daysInMonth year month

instance (year : Int) (month day : Nat) : Decidable (IsValid year month day) :=
  decidable_of_iff (1 ≤ month ∧ month ≤ 12 ∧ 1 ≤ day ∧ day ≤ daysInMonth year month)
    ⟨fun ⟨a, b, c, d⟩ => ⟨a, b, c, d⟩, fun ⟨a, b, c, d⟩ => ⟨a, b, c, d⟩⟩

end Date

structure Date where
  year : Int
  month : Nat
  day : Nat
  valid : Date.IsValid year month day
deriving DecidableEq

namespace Date

def ofFields? (year : Int) (month day : Nat) : Option Date :=
  if valid : IsValid year month day then some ⟨year, month, day, valid⟩ else none

def first (year : Int) (month : Nat) (one_le : 1 ≤ month) (le : month ≤ 12) : Date :=
  ⟨year, month, 1, ⟨one_le, le, Nat.le_refl 1, daysInMonth_pos year month⟩⟩

def last (year : Int) (month : Nat) (one_le : 1 ≤ month) (le : month ≤ 12) : Date :=
  ⟨year, month, daysInMonth year month,
    ⟨one_le, le, daysInMonth_pos year month, Nat.le_refl _⟩⟩

def next (date : Date) : Date :=
  if inMonth : date.day + 1 ≤ daysInMonth date.year date.month then
    ⟨date.year, date.month, date.day + 1,
      ⟨date.valid.one_le_month, date.valid.month_le, Nat.le_add_left 1 _, inMonth⟩⟩
  else if inYear : date.month + 1 ≤ 12 then
    first date.year (date.month + 1) (Nat.le_add_left 1 _) inYear
  else first (date.year + 1) 1 (by decide) (by decide)

def previous (date : Date) : Date :=
  if inMonth : 1 ≤ date.day - 1 then
    ⟨date.year, date.month, date.day - 1,
      ⟨date.valid.one_le_month, date.valid.month_le, inMonth,
        Nat.le_trans (Nat.sub_le _ _) date.valid.day_le⟩⟩
  else if inYear : 1 ≤ date.month - 1 then
    last date.year (date.month - 1) inYear
      (Nat.le_trans (Nat.sub_le _ _) date.valid.month_le)
  else last (date.year - 1) 12 (by decide) (by decide)

def epoch : Date := first 1970 1 (by decide) (by decide)

def after (count : Nat) (date : Date) : Date :=
  Nat.repeat next count date

example : (epoch.after 59).month = 3 ∧ (epoch.after 59).day = 1 := by decide +kernel
example : (first 2024 3 (by decide) (by decide)).previous.day = 29 := by decide +kernel

end Date

end Bulletin
