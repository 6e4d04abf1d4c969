import CourseAudit.Payload.Scalar

/-!
Dates in payloads. A date is written by year, month and day, or as a moment at midnight: a date
with a clock time, or a number of seconds, or of milliseconds when it is large, since 1970. The
year before the first one can be written in all of these ways, but its days are no dates.
-/
namespace CourseAudit.Payload.Day

/-- A day that can be written. -/
inductive Written
  | dated (day : CivilDate)
  | yearZero
deriving Repr

/-- A day, and whether the moment that names it is its beginning. -/
abbrev Moment := Written × Bool

/-- The day with these parts, if it can be written. -/
def ofParts? (year month day : Nat) : Option Written :=
  if year = 0 then
    if 1 ≤ month ∧ month ≤ 12 ∧ 1 ≤ day ∧ day ≤ monthLength 0 month then some .yearZero else none
  else (CivilDate.ofParts? year month day).map .dated

def digit? (c : Char) : Option Nat := if c.isDigit then some (c.toNat - 48) else none

/-- Two digits and what follows them. -/
def twoDigits? : List Char → Option (Nat × List Char)
  | a :: b :: rest => do return (10 * (← digit? a) + (← digit? b), rest)
  | _ => none

/-- Year, month and day at the head of a text. -/
def date? (cs : List Char) : Option (Written × List Char) := do
  let (century, rest) ← twoDigits? cs
  let (year, rest) ← twoDigits? rest
  match rest with
  | '-' :: rest =>
    let (month, rest) ← twoDigits? rest
    match rest with
    | '-' :: rest =>
      let (day, rest) ← twoDigits? rest
      return (← ofParts? (100 * century + year) month day, rest)
    | _ => none
  | _ => none

/-- Seconds with an optional fraction, and whether all of them are zero in the first six places. -/
def seconds? (cs : List Char) : Option (Bool × List Char) :=
  match cs with
  | ':' :: rest => do
    let (second, rest) ← twoDigits? rest
    if 59 < second then none
    match rest with
    | c :: rest' =>
      if c = '.' ∨ c = ',' then
        let digits := rest'.takeWhile Char.isDigit
        if digits.isEmpty then none
        return (second == 0 && (digits.take 6).all (· == '0'), rest'.dropWhile Char.isDigit)
      else return (second == 0, rest)
    | [] => return (second == 0, [])
  | _ => some (true, cs)

/-- The offset from universal time that may end a text: hours and minutes, less than a day. -/
def endsWithOffset (cs : List Char) : Bool :=
  match cs with
  | [] | ['Z'] | ['z'] => true
  | sign :: rest =>
    if sign = '+' ∨ sign = '-' ∨ sign = Char.ofNat 0x2212 then
      let outcome : Option Bool := do
        let (hours, rest) ← twoDigits? rest
        let rest := match rest with
          | ':' :: more => more
          | more => more
        let (minutes, rest) ← twoDigits? rest
        return rest.isEmpty && decide (minutes < 60) && decide (hours < 24)
      outcome.getD false
    else false

/-- A date with a clock time. -/
def moment? (cs : List Char) : Option Moment := do
  let (day, rest) ← date? cs
  match rest with
  | mark :: rest =>
    if mark = 'T' ∨ mark = 't' ∨ mark = ' ' ∨ mark = '_' then
      let (hour, rest) ← twoDigits? rest
      match rest with
      | ':' :: rest =>
        let (minute, rest) ← twoDigits? rest
        if 23 < hour ∨ 59 < minute then none
        let (zero, rest) ← seconds? rest
        if endsWithOffset rest then return (day, hour == 0 && minute == 0 && zero) else none
      | _ => none
    else none
  | [] => none

/-- The number of the first day of 1970. -/
def epochDay : Int := 719163

/-- Counts above this are milliseconds. -/
def secondLimit : Nat := 20000000000

/-- The first second of the year before the first one. -/
def earliest : Int := -62167219200

/-- The last second of the year 9999. -/
def latest : Int := 253402300799

/-- The day with a number; days before the first one are in the year before it. -/
def ofDayNumber? (number : Int) : Option Written :=
  if number ≤ 0 then some .yearZero else (CivilDate.ofDayNumber? number.toNat).map .dated

/-- The moment at a whole count of seconds or milliseconds and further microseconds. -/
def ofCount? (count : Int) (micros : Nat) : Option Moment :=
  let milli := secondLimit < count.natAbs
  let second := if milli then count.fdiv 1000 else count
  let micro := micros + if milli then (count.fmod 1000).toNat * 1000 else 0
  let second := second + micro / 1000000
  if second < earliest ∨ latest < second then none
  else do
    let day ← ofDayNumber? (epochDay + second.fdiv 86400)
    return (day, second.fmod 86400 == 0 && micro % 1000000 == 0)

/-- The whole number nearest to a number that is not negative; halves go up. -/
def nearest : Binary64 → Nat
  | .finite _ m e =>
    let ratio := Binary64.magnitude m e
    (2 * ratio.1 + ratio.2) / (2 * ratio.2)
  | _ => 0

/-- The moment at a count with a fraction. The fraction is rounded to microseconds. -/
def ofNumber? (x : Binary64) : Option Moment := do
  let count ← x.floor?
  let fraction := x.add (Binary64.ofInt count).neg
  ofCount? count (nearest (fraction.mul (Binary64.ofInt 1000000)))

/-- A written count with a fraction is brought to seconds before it is split. -/
def ofWrittenNumber? (x : Binary64) : Option Moment :=
  let limit := Binary64.ofInt secondLimit
  if x.gt limit || x.lt limit.neg then ofNumber? (x.div (Binary64.ofInt 1000)) else ofNumber? x

/-- Written counts have to be smaller than this in magnitude before their point. -/
def writtenLimit : Nat := Nat.pow 2 63

/-- A count written in decimal digits; with a point it may have an exponent too. -/
def ofNumeral? (cs : List Char) : Option Moment :=
  let signed := Numeral.takeSign cs
  let whole := signed.2.takeWhile Char.isDigit
  let size := Text.digitsValue whole
  if writtenLimit ≤ size then none
  else
    match signed.2.dropWhile Char.isDigit with
    | [] =>
      if whole.isEmpty then none
      else ofCount? (if signed.1 then -(size : Int) else size) 0
    | '.' :: _ => do ofWrittenNumber? (← ofDecimalText? cs)
    | _ => none

/-- Only the beginning of a day counts as the day. -/
def ofMoment : Option Moment → Except IssueKind CivilDate
  | none => .error .dateText
  | some (_, false) => .error .dateInexact
  | some (.yearZero, true) => .error .yearZero
  | some (.dated day, true) => .ok day

def ofText (s : String) : Except IssueKind CivilDate :=
  let cs := s.toList
  match date? cs with
  | some (day, []) => ofMoment (some (day, true))
  | _ =>
    match moment? cs with
    | some found => ofMoment (some found)
    | none => ofMoment (ofNumeral? cs)

/-- The date that a value of a payload writes. -/
def read : Value → Except IssueKind CivilDate
  | .date d => .ok d
  | .moment t =>
    ofMoment (some (.dated t.date,
      t.hour == 0 && t.minute == 0 && t.second == 0 && t.micro == 0))
  | .text s => ofText s
  | .choice c => ofText c.label
  | .int i => if (Binary64.ofInt i).isFinite then ofMoment (ofCount? i 0) else .error .notDate
  | .float x => ofMoment (ofNumber? x)
  | _ => .error .notDate

end CourseAudit.Payload.Day
