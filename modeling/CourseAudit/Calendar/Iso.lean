import CourseAudit.Calendar.Timestamp
import CourseAudit.Text.Bytes

/-!
The reader of standard date and time texts: calendar and week dates, with or without hyphens, any
single character before the time, and an offset. Times are read as bytes, where a zero byte ends
a time as the end of the text does, and one byte left over before an offset is not looked at.
-/
namespace CourseAudit.Iso

/-- Exactly `count` digits and what follows them. -/
def takeNumber (count : Nat) (cs : List Char) : Option (Nat × List Char) :=
  let digits := cs.take count
  if digits.length = count ∧ digits.all Char.isDigit = true then
    some (digits.foldl (fun n c => 10 * n + (c.toNat - 48)) 0, cs.drop count)
  else none

/-- How many characters of a text are its date. The week forms are told apart by what follows
the week. -/
def dateLength (cs : List Char) : Nat :=
  if cs.length = 7 then 7
  else if cs[4]? = some '-' then
    if cs[5]? = some 'W' then
      if cs[8]? = some '-' ∧ ((cs[10]?).map Char.isDigit).getD false = false then 10 else 8
    else 10
  else if cs[4]? = some 'W' then
    let stop := 7 + ((cs.drop 7).takeWhile Char.isDigit).length
    if stop < 9 then stop else if stop % 2 = 0 then 7 else 8
  else 8

/-- A calendar date or a week date; the parts are separated all or none, and a week alone means
its Monday. -/
def readDate (cs : List Char) : Option CivilDate := do
  let (year, rest) ← takeNumber 4 cs
  let separated := rest.head? == some '-'
  let rest := if separated then rest.drop 1 else rest
  let skip (cs : List Char) : Option (List Char) :=
    if separated then (if cs.head? == some '-' then some (cs.drop 1) else none) else some cs
  if rest.head? == some 'W' then
    let (week, rest) ← takeNumber 2 (rest.drop 1)
    if rest.isEmpty then CivilDate.ofWeek? year week 1
    else
      let rest ← skip rest
      let (weekday, _) ← takeNumber 1 rest
      CivilDate.ofWeek? year week weekday
  else
    let (month, rest) ← takeNumber 2 rest
    let rest ← skip rest
    let (day, _) ← takeNumber 2 rest
    CivilDate.ofParts? year month day

/-- A clock time, and whether anything was left unread. -/
structure Clock where
  hour : Nat
  minute : Nat
  second : Nat
  micro : Nat
  unread : Bool

def isDigitByte (b : Nat) : Bool := 48 ≤ b && b ≤ 57

/-- Exactly `count` digits and what follows them. -/
def takeDigits (count : Nat) (bytes : List Nat) : Option (Nat × List Nat) :=
  let digits := bytes.take count
  if digits.length = count ∧ digits.all isDigitByte = true then
    some (digits.foldl (fun n b => 10 * n + (b - 48)) 0, bytes.drop count)
  else none

/-- Up to six digits of a fraction, as microseconds; further digits are skipped. -/
def readFraction (bytes : List Nat) : Option (Nat × List Nat) := do
  let count := min bytes.length 6
  let (digits, rest) ← takeDigits count bytes
  some (digits * Nat.pow 10 (6 - count), rest.dropWhile isDigitByte)

def colon : Nat := 0x3a

/-- Hours, then minutes and seconds as far as they are given, then a fraction. `next` is the byte
after the bytes of the time, zero at the end of the text, and `colons` says whether the parts are
separated. -/
def readClock (next : Nat) (colons : Option Bool) (parts : List Nat) (missing : Nat)
    (bytes : List Nat) : Option Clock :=
  let clock (micro : Nat) (stop : Nat) (parts : List Nat) : Clock :=
    ⟨parts.getD 0 0, parts.getD 1 0, parts.getD 2 0, micro, stop != 0⟩
  let fraction (parts : List Nat) (bytes : List Nat) : Option Clock := do
    let (micro, rest) ← readFraction bytes
    some (clock micro (rest.headD next) parts)
  match missing with
  | 0 => fraction parts bytes
  | missing + 1 => do
    let (value, rest) ← takeDigits 2 bytes
    let parts := parts ++ [value]
    let colons := colons.getD (rest.headD next == colon)
    match rest with
    | [] => some (clock 0 next parts)
    | [b] => some (clock 0 b parts)
    | b :: more =>
      if colons && b == colon then readClock next (some colons) parts missing more
      else if b == 0x2e || b == 0x2c then fraction parts more
      else if colons then none
      else readClock next (some colons) parts missing rest

/-- A plus, a minus or the letter of universal time begins an offset. -/
def beginsOffset (b : Nat) : Bool := b == 0x2b || b == 0x2d || b == 0x5a

/-- A time of day with an offset. Bytes left unread are an error unless an offset follows. An offset
of less than a second is none. -/
def readTime (date : CivilDate) (bytes : List Nat) : Option Timestamp := do
  let time := bytes.takeWhile fun b => !beginsOffset b
  match bytes.dropWhile fun b => !beginsOffset b with
  | [] =>
    let clock ← readClock 0 none [] 3 time
    if clock.unread then none
    else Timestamp.ofParts? date clock.hour clock.minute clock.second clock.micro none
  | sign :: zone =>
    let clock ← readClock sign none [] 3 time
    if sign == 0x5a then
      if zone.headD 0 == 0 then
        Timestamp.ofParts? date clock.hour clock.minute clock.second clock.micro (some 0)
      else none
    else
      let shift ← readClock 0 none [] 3 zone
      if shift.unread then none
      else
        let seconds := (shift.hour * 60 + shift.minute) * 60 + shift.second
        let micros : Int := if seconds = 0 then 0 else seconds * 1000000 + shift.micro
        Timestamp.ofParts? date clock.hour clock.minute clock.second clock.micro
          (some (if sign == 0x2d then -micros else micros))

/-- A date, or a date and a time after one character of any kind. -/
def read (cs : List Char) : Option Timestamp := do
  if cs.length < 7 then none
  else
    let cut := dateLength cs
    let date ← readDate (cs.take cut)
    match cs.drop cut with
    | [] => Timestamp.ofParts? date 0 0 0 0 none
    | _ :: time => readTime date (time.flatMap Text.bytesOf)

/-- A date alone, in a text of a length that some form of it has; of the longest form only as many
characters are read as the form at hand has. -/
def readDay (cs : List Char) : Option CivilDate :=
  let size := (cs.flatMap Text.bytesOf).length
  if size = 7 ∨ size = 8 ∨ size = 10 then readDate cs else none

end CourseAudit.Iso
