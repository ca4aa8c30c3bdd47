/-!
# Dates

Days of the calendar in use today, extended to all years in both directions. Years are counted with
a year zero.

## Main Definitions

* `Date` — a day
* `Date.make?` — a day from its numbers, if there is such a day
* `Date.next`, `Date.previous` — the neighbouring days
-/

namespace QuerySession

/-- A day. -/
structure Date where
  year : Int
  month : Nat
  day : Nat
  deriving DecidableEq

namespace Date

/-- Whether February has 29 days. -/
def isLeapYear (year : Int) : Bool := year % 4 == 0 && (year % 100 != 0 || year % 400 == 0)

/-- The number of days of a month. -/
def daysIn (year : Int) (month : Nat) : Nat :=
  if month = 2 then (if isLeapYear year then 29 else 28)
  else if month = 4 ∨ month = 6 ∨ month = 9 ∨ month = 11 then 30
  else 31

/-- The first year that is kept. -/
def firstYear : Int := -262143

/-- The last year that is kept. -/
def lastYear : Int := 262142

/-- Whether a year is kept. -/
def isKept (year : Int) : Bool := firstYear ≤ year && year ≤ lastYear

/-- The day with the given numbers, if there is one in a year that is kept. -/
def make? (year : Int) (month day : Nat) : Option Date :=
  if isKept year ∧ 1 ≤ month ∧ month ≤ 12 ∧ 1 ≤ day ∧ day ≤ daysIn year month then
    some ⟨year, month, day⟩
  else none

/-- The day after. -/
def next (d : Date) : Option Date :=
  if d.day < daysIn d.year d.month then some { d with day := d.day + 1 }
  else if d.month < 12 then some ⟨d.year, d.month + 1, 1⟩
  else if isKept (d.year + 1) then some ⟨d.year + 1, 1, 1⟩
  else none

/-- The day before. -/
def previous (d : Date) : Option Date :=
  if 1 < d.day then some { d with day := d.day - 1 }
  else if 1 < d.month then some ⟨d.year, d.month - 1, daysIn d.year (d.month - 1)⟩
  else if isKept (d.year - 1) then some ⟨d.year - 1, 12, 31⟩
  else none

end Date

end QuerySession
