import CourseAudit.Calendar.Date

/-!
A date with a time of day and, where one is known, its distance from universal time.
-/
namespace CourseAudit

/-- The offset is counted in microseconds, east positive. -/
structure Timestamp where
  date : CivilDate
  hour : Nat
  minute : Nat
  second : Nat
  micro : Nat
  offset : Option Int
deriving DecidableEq, Repr, Inhabited

namespace Timestamp

/-- A moment of a day with a legal clock time, and an offset of less than a day. -/
def ofParts? (date : CivilDate) (hour minute second micro : Nat) (offset : Option Int) :
    Option Timestamp :=
  if hour < 24 ∧ minute < 60 ∧ second < 60 ∧ micro < 1000000 ∧
      (offset.getD 0).natAbs < 86400000000 then
    some ⟨date, hour, minute, second, micro, offset⟩
  else none

/-- Hours, minutes and seconds, with six further digits when there is a fraction. -/
def clockText (hour minute second micro : Nat) : String :=
  CivilDate.pad 2 hour ++ ":" ++ CivilDate.pad 2 minute ++ ":" ++ CivilDate.pad 2 second ++
    (if micro = 0 then "" else "." ++ CivilDate.pad 6 micro)

/-- A signed offset, with seconds and their fraction only where they are not zero. -/
def offsetText (offset : Int) : String :=
  let micros := offset.natAbs
  let seconds := micros / 1000000
  let rest := seconds % 60
  let fraction := micros % 1000000
  (if offset < 0 then "-" else "+") ++ CivilDate.pad 2 (seconds / 3600) ++ ":" ++
    CivilDate.pad 2 (seconds / 60 % 60) ++
    (if rest = 0 ∧ fraction = 0 then "" else ":" ++ CivilDate.pad 2 rest) ++
    (if fraction = 0 then "" else "." ++ CivilDate.pad 6 fraction)

/-- The date and the clock time joined by `mark`. -/
def textWith (mark : String) (t : Timestamp) : String :=
  t.date.iso ++ mark ++ clockText t.hour t.minute t.second t.micro ++
    (t.offset.map offsetText).getD ""

def iso (t : Timestamp) : String := textWith "T" t

/-- Microseconds since the first day began, in universal time when the offset is known. -/
def instant (t : Timestamp) : Int :=
  let seconds := ((t.date.dayNumber * 24 + t.hour) * 60 + t.minute) * 60 + t.second
  (seconds * 1000000 + t.micro : Nat) - t.offset.getD 0

/-- Two timestamps name the same moment when both or neither of them know their offset. -/
def sameMoment (t u : Timestamp) : Bool :=
  t.offset.isSome == u.offset.isSome && t.instant == u.instant

end Timestamp
end CourseAudit
