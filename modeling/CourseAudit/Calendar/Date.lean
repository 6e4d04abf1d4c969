/-!
Calendar dates of the years 1 to 9999. A `CivilDate` always names a day that exists; `dayNumber`
counts days from the first one, and the week calendar is read through it.
-/
namespace CourseAudit

def isLeapYear (year : Nat) : Bool := year % 4 == 0 && (year % 100 != 0 || year % 400 == 0)

def monthLength (year month : Nat) : Nat :=
  if month = 2 then (if isLeapYear year then 29 else 28)
  else if month = 4 ∨ month = 6 ∨ month = 9 ∨ month = 11 then 30
  else 31

/-- A day that exists. -/
structure CivilDate where
  year : Nat
  month : Nat
  day : Nat
  exists_day : 1 ≤ year ∧ year ≤ 9999 ∧ 1 ≤ month ∧ month ≤ 12 ∧ 1 ≤ day ∧
    day ≤ monthLength year month
deriving DecidableEq, Repr

namespace CivilDate

/-- The day with these parts, if there is one. -/
def ofParts? (year month day : Nat) : Option CivilDate :=
  if h : 1 ≤ year ∧ year ≤ 9999 ∧ 1 ≤ month ∧ month ≤ 12 ∧ 1 ≤ day ∧
      day ≤ monthLength year month then
    some ⟨year, month, day, h⟩
  else none

instance : Inhabited CivilDate := ⟨⟨1, 1, 1, by decide⟩⟩

/-- A number that grows with the date; days of one month are consecutive. -/
def rank (d : CivilDate) : Nat := (d.year * 16 + d.month) * 32 + d.day

def before (d e : CivilDate) : Bool := decide (d.rank < e.rank)

/-- Days in the years before a year. -/
def daysBeforeYear (year : Nat) : Nat :=
  let past := year - 1
  past * 365 + past / 4 - past / 100 + past / 400

/-- Days in the months before a month. -/
def daysBeforeMonth (year month : Nat) : Nat :=
  (List.range (month - 1)).foldl (fun days m => days + monthLength year (m + 1)) 0

/-- The first of January of the year 1 has number 1. -/
def dayNumber (d : CivilDate) : Nat :=
  daysBeforeYear d.year + daysBeforeMonth d.year d.month + d.day

/-- The month and day with a number within a year, looking from `month` on. -/
def monthAndDay (year : Nat) (month day : Nat) : Nat → Nat × Nat
  | 0 => (month, day)
  | fuel + 1 =>
    if day ≤ monthLength year month then (month, day)
    else monthAndDay year (month + 1) (day - monthLength year month) fuel

/-- The year that holds a day number: an estimate that is never too late, moved on. -/
def yearOfDay (number : Nat) : Nat :=
  let guess := (number - 1) / 366 + 1
  ((List.range 30).map (guess + ·)).foldl
    (fun year next => if daysBeforeYear next < number then next else year) guess

/-- The day with a number, for the years of this calendar. -/
def ofDayNumber? (number : Nat) : Option CivilDate :=
  if number = 0 then none
  else
    let year := yearOfDay number
    let found := monthAndDay year 1 (number - daysBeforeYear year) 12
    ofParts? year found.1 found.2

/-- Days from Monday, of the first of January. -/
def firstWeekday (year : Nat) : Nat := (daysBeforeYear year + 7) % 7

/-- A year of the week calendar has 53 weeks when it starts on a Thursday, or on a Wednesday and
is a leap year. -/
def weeksIn (year : Nat) : Nat :=
  if firstWeekday year = 3 ∨ (firstWeekday year = 2 ∧ isLeapYear year = true) then 53 else 52

/-- The day with a year, a week and a weekday of the week calendar. Week 1 holds the first
Thursday. -/
def ofWeek? (year week weekday : Nat) : Option CivilDate :=
  if 1 ≤ year ∧ 1 ≤ week ∧ week ≤ weeksIn year ∧ 1 ≤ weekday ∧ weekday ≤ 7 then
    let first := firstWeekday year
    let monday : Int := (daysBeforeYear year : Int) + 1 - first + (if 3 < first then 7 else 0)
    let number := monday + (week - 1) * 7 + weekday - 1
    if number ≤ 0 then none else ofDayNumber? number.toNat
  else none

def pad (width n : Nat) : String :=
  let digits := Nat.toDigits 10 n
  String.ofList (List.replicate (width - digits.length) '0' ++ digits)

/-- Year, month and day with leading zeros, joined by hyphens. -/
def iso (d : CivilDate) : String := pad 4 d.year ++ "-" ++ pad 2 d.month ++ "-" ++ pad 2 d.day

/-- Month, day and year without leading zeros, joined by slashes. -/
def slashed (d : CivilDate) : String :=
  toString d.month ++ "/" ++ toString d.day ++ "/" ++ toString d.year

end CivilDate
end CourseAudit
